/-
# Comparisons

How an operator compares an actual value with an expected one.  What cannot be compared fails:
a comparison is always answered, by *yes* or *no*, and what went wrong is noted.  A missing
field is taken as `null` except by the operators that ask whether it is there or empty.

Two things abandon a comparison half-way, a number without a double and a pattern that asks for
too much; the answer is then *no*.
-/

import Eligibility.Noted
import Eligibility.Operator
import Eligibility.Pattern.Reader
import Eligibility.Pattern.Search
import Eligibility.Value.Instant
import Eligibility.Value.Loose

namespace Eligibility

/-- Why a comparison was abandoned. -/
inductive Comparison.Fault where
  | number (fault : NumberFault)
  | pattern (fault : Pattern.Fault)

/-- A comparison under way. -/
abbrev Comparison := ExceptT Comparison.Fault Noted

namespace Comparison

/-- A number operation within a comparison. -/
def ofNumber {α : Type} (x : Except NumberFault α) : Comparison α :=
  ExceptT.mk (pure (x.mapError Fault.number))

/-- Note an event. -/
def note (event : Event) : Comparison Unit := ExceptT.lift (Noted.note event)

/-- Compare two values as numbers. -/
def ordered (test : Double → Double → Bool) (actual expected : Value) : Comparison Bool := do
  let left ← ofNumber actual.number?
  let right ← ofNumber expected.number?
  match left, right with
  | some x, some y => return test x y
  | _, _ =>
    note .notNumeric
    return false

/-- The items that an actual value should be among. -/
def members (expected : Value) : Comparison (Option (List Value)) := do
  match expected.collection? with
  | some (item :: items) => return some (item :: items)
  | _ =>
    note .noMembers
    return none

/-- Whether the value equals one of the expected ones. -/
def among (actual expected : Value) : Comparison Bool := do
  match ← members expected with
  | some items => if actual.isNull then return false else ofNumber (actual.equalsAny items)
  | none => return false

/-- Whether the value equals none of the expected ones. -/
def notAmong (actual expected : Value) : Comparison Bool := do
  match ← members expected with
  | some items =>
    if actual.isNull then return true else return !(← ofNumber (actual.equalsAny items))
  | none => return false

/-- The two items of a list or tuple of two. -/
def pair? (v : Value) : Option (Value × Value) :=
  match v.sequence? with
  | some [first, second] => some (first, second)
  | _ => none

/-- The numbers of a pair, when they are numbers in order. -/
def orderedPair? (expected : Value) : Except NumberFault (Option (Double × Double)) := do
  match pair? expected with
  | some (first, second) =>
    let low ← first.number?
    let high ← second.number?
    match low, high with
    | some low, some high => return if low.le high then some (low, high) else none
    | _, _ => return none
  | none => return none

/-- The bounds of a range. -/
def bounds (expected : Value) : Comparison (Option (Double × Double)) := do
  match ← ofNumber (orderedPair? expected) with
  | some found => return some found
  | none =>
    note .badRange
    return none

/-- Whether the value lies in a range or, when `inside` is false, outside it. -/
def ranged (inside : Bool) (actual expected : Value) : Comparison Bool := do
  let found ← bounds expected
  let value ← ofNumber actual.number?
  match found, value with
  | some (low, high), some x => return (low.le x && x.le high) == inside
  | _, _ => return false

/-- Compare the texts of two values; `null` has none. -/
def texts (test : List Char → List Char → Bool) (actual expected : Value) : Bool :=
  !actual.isNull && !expected.isNull && test expected.display.toList actual.display.toList

/-- Whether one list of characters stands somewhere in another. -/
def occurs (needle : List Char) : List Char → Bool
  | [] => needle.isEmpty
  | c :: rest => needle.isPrefixOf (c :: rest) || occurs needle rest

/-- Whether a collection has an item equal to the value, or a text has the value's text in it. -/
def contains (actual expected : Value) : Comparison Bool :=
  if actual.isNull || expected.isNull then return false
  else
    match actual.collection? with
    | some items => ofNumber (anyEqual items)
    | none => return occurs expected.display.toList actual.display.toList
where
  /-- Whether one of the items equals the expected value. -/
  anyEqual : List Value → Except NumberFault Bool
    | [] => .ok false
    | item :: rest => do if ← Value.looselyEqual item expected then return true else anyEqual rest

/-- Whether a pattern occurs in the text of a value. -/
def matching (actual expected : Value) : Comparison Bool := do
  match actual.isNull, expected.asText? with
  | false, some pattern =>
    match Pattern.ofText pattern with
    | .ok pattern => return pattern.occursIn actual.display
    | .error .malformed =>
      note .badPattern
      return false
    | .error fault => throw (.pattern fault)
  | _, _ => return false

/-- Compare two values as instants, by their positions in time. -/
def dated (test : Int → Int → Bool) (actual expected : Value) : Comparison Bool := do
  let left ← ofNumber actual.instant?
  let right ← ofNumber expected.instant?
  match left, right with
  | some a, some b => return test a.position b.position
  | _, _ =>
    note .notADate
    return false

/-- Whether an instant lies between two others, both included. -/
def dateBetween (actual expected : Value) : Comparison Bool := do
  match pair? expected with
  | some (first, second) =>
    let value ← ofNumber actual.instant?
    let start ← ofNumber first.instant?
    let stop ← ofNumber second.instant?
    match value, start, stop with
    | some value, some start, some stop =>
      return !decide (stop.position < start.position) &&
        decide (start.position ≤ value.position) && decide (value.position ≤ stop.position)
    | _, _, _ => return false
  | none =>
    note .badDateRange
    return false

/-- Carry out the comparison of an operator. -/
def carryOut (operator : Operator) (actual expected : Value) : Comparison Bool :=
  match operator with
  | .eq => ofNumber (actual.looselyEqual expected)
  | .neq => not <$> ofNumber (actual.looselyEqual expected)
  | .gt => ordered (fun x y => y.lt x) actual expected
  | .gte => ordered (fun x y => y.le x) actual expected
  | .lt => ordered Double.lt actual expected
  | .lte => ordered Double.le actual expected
  | .among => among actual expected
  | .notAmong => notAmong actual expected
  | .between => ranged true actual expected
  | .notBetween => ranged false actual expected
  | .empty => ofNumber actual.isEmpty
  | .notEmpty => not <$> ofNumber actual.isEmpty
  | .present => return !actual.isMissing
  | .absent => return actual.isMissing
  | .startsWith => return texts List.isPrefixOf actual expected
  | .endsWith => return texts List.isSuffixOf actual expected
  | .contains => contains actual expected
  | .matching => matching actual expected
  | .before => dated (fun a b => decide (a < b)) actual expected
  | .after => dated (fun a b => decide (b < a)) actual expected
  | .dateBetween => dateBetween actual expected

end Comparison

namespace Operator

/-- Whether the operator tells a missing field from `null`. -/
def seesMissing : Operator → Bool
  | present => true
  | absent => true
  | empty => true
  | notEmpty => true
  | _ => false

/-- The actual value as the operator takes it. -/
def taken (operator : Operator) (actual : Value) : Value :=
  if operator.seesMissing then actual else actual.present

/-- Whether an actual value passes the comparison with an expected one. -/
def compare (operator : Operator) (actual expected : Value) : Noted Bool := do
  match ← (Comparison.carryOut operator (operator.taken actual) expected).run with
  | .ok passed => return passed
  | .error _ =>
    Noted.note .comparisonFailed
    return false

/-- The operator that a value spells. -/
def ofValue (v : Value) : Except Failure Operator :=
  match ofValue? v with
  | some operator => .ok operator
  | none => .error (.unknownOperator v.display)

end Operator

/-- Compare by an operator that still has to be read. -/
def compareBy (operator actual expected : Value) : Trial Bool := do
  let operator ← Trial.ofExcept (Operator.ofValue operator)
  Trial.ofNoted (operator.compare actual expected)

end Eligibility
