/-
# Lenient reading

Settings and stored results come from sources that spell things in more than one way.  A field
that should be a number or a boolean also takes the texts and the other kinds of number that
clearly stand for one; a text stands for itself alone.
-/

import Eligibility.Failure
import Eligibility.Text.Case

namespace Eligibility
namespace Lenient

/-- The text of bytes in UTF-8. -/
def utf8? (data : List UInt8) : Option String := String.fromUTF8? ⟨data.toArray⟩

/-- The text that a value is, or that its bytes write; none for other kinds. -/
def textOr (fault : FieldFault) : Value → Except FieldFault (Option String)
  | .text s => .ok (some s)
  | .bytes data =>
    match utf8? data with
    | some s => .ok (some s)
    | none => .error fault
  | _ => .ok none

/-- A text. -/
def text (v : Value) : Except FieldFault String := do
  match ← textOr .brokenText v with
  | some s => return s
  | none => .error .notText

/-- Characters without the low lines that group digits; none when a low line stands at an end or
beside another. -/
def ungrouped? (cs : List Char) : Option (List Char) :=
  let doubled := (cs.zip (cs.drop 1)).any fun (c, d) => c = '_' && d = '_'
  if cs.head? = some '_' || cs.getLast? = some '_' || doubled then none
  else some (cs.filter (· != '_'))

/-- Characters without a point that only zeros follow. -/
def withoutZeroFraction (cs : List Char) : List Char :=
  match cs.dropWhile (· != '.') with
  | _ :: zeros => if zeros.all (· == '0') then cs.takeWhile (· != '.') else cs
  | [] => cs

/-- The integer that a text stands for. -/
def integer? (s : String) : Option Int := do
  let (negative, body) := Text.readSign (Text.trimBy Text.isNumeralSpace s.toList)
  let digits ← ungrouped? (withoutZeroFraction body)
  if digits.isEmpty || !digits.all Char.isDigit then none
  else return Text.withSign negative (Text.ofDigits (digits.map fun c => c.toNat - 48))

/-- The bound on integers that are given as doubles. -/
def wordLimit : Int := 9223372036854775807

/-- The integer that a double is. -/
def wholeDouble (x : Double) : Except FieldFault Int :=
  if !x.isFinite then .error .notFinite
  else
    match x.toInt? with
    | none => .error .fractionalInteger
    | some n => if n.natAbs ≤ wordLimit then .ok n else .error .oversizedInteger

/-- The integer that a decimal is. -/
def wholeDecimal : Decimal → Except FieldFault Int
  | .finite negative coefficient exponent =>
    if exponent ≥ 0 then .ok (Text.withSign negative (coefficient * Nat.pow 10 exponent.toNat))
    else
      let scale := Nat.pow 10 (-exponent).toNat
      if coefficient % scale = 0 then .ok (Text.withSign negative (coefficient / scale))
      else .error .fractionalInteger
  | _ => .error .notFinite

/-- An integer. -/
def integer (v : Value) : Except FieldFault Int := do
  match v with
  | .int n => return n
  | .bool b => return if b then 1 else 0
  | .double x => wholeDouble x
  | .decimal d => wholeDecimal d
  | v =>
    match ← textOr .unreadableInteger v with
    | some s =>
      match integer? s with
      | some n => return n
      | none => .error .unreadableInteger
    | none => .error .notInteger

/-- The double that a text stands for. -/
def double? (s : String) : Option Double :=
  match Text.readNumeral? (Text.trimBy Text.isNumeralSpace s.toList) with
  | some numeral => some (.ofNumeral numeral)
  | none => (ungrouped? s.toList >>= Text.readNumeral?).map .ofNumeral

/-- A number. -/
def double (v : Value) : Except FieldFault Double := do
  match v with
  | .text _ => ofText v
  | .bytes _ => ofText v
  | v =>
    match v.asDouble? with
    | .ok (some x) => return x
    | _ => .error .notNumber
where
  /-- The number that a text or bytes write. -/
  ofText (v : Value) : Except FieldFault Double := do
    match (← textOr .unreadableNumber v) >>= double? with
    | some x => return x
    | none => .error .unreadableNumber

/-- The words for the two booleans. -/
def booleanWords : List (String × Bool) :=
  [("0", false), ("off", false), ("f", false), ("false", false), ("n", false), ("no", false),
    ("1", true), ("on", true), ("t", true), ("true", true), ("y", true), ("yes", true)]

/-- The boolean that an integer stands for. -/
def booleanOfInt (n : Int) : Except FieldFault Bool :=
  if n = 0 then .ok false else if n = 1 then .ok true else .error .unreadableBoolean

/-- A boolean. -/
def boolean (v : Value) : Except FieldFault Bool := do
  match v with
  | .bool b => return b
  | .int n => if n.natAbs ≤ wordLimit then booleanOfInt n else .error .notBoolean
  | v =>
    match ← textOr .unreadableBoolean v with
    | some s =>
      match booleanWords.find? (·.1 == Text.lowerAscii s) with
      | some (_, b) => return b
      | none => .error .unreadableBoolean
    | none =>
      match v.asDouble? with
      | .ok (some x) =>
        match wholeDouble x with
        | .ok n => booleanOfInt n
        | .error _ => .error .notBoolean
      | _ => .error .notBoolean

/-- A number that is not below a minimum. -/
def atLeast (minimum : Int) (read : Value → Except FieldFault Int) (v : Value) :
    Except FieldFault Int := do
  let n ← read v
  if n < minimum then .error .belowMinimum else return n

/-- A number that is not negative. A NaN is not. -/
def nonnegative (v : Value) : Except FieldFault Double := do
  let x ← double v
  if Double.zero.le x then return x else .error .belowMinimum

end Lenient
end Eligibility
