/-
# Values as numbers

A rule compares numbers as doubles.  Integers, doubles, decimals and texts that write a numeral
have one; a boolean, `null` and everything else have none, and neither has anything whose
double is not finite.  Two numbers cannot be turned into a double at all: an integer beyond the
largest one, and a signaling NaN.
-/

import Eligibility.Value.Basic
import Eligibility.Double.Reading

namespace Eligibility

/-- Why a number has no double, or does not compare. -/
inductive NumberFault where
  | integerTooLarge
  | signalingNaN
  /-- A signaling NaN was compared. -/
  | signalingCompared
  deriving DecidableEq

/-- The wording of a fault. -/
def NumberFault.message : NumberFault → String
  | .integerTooLarge => "int too large to convert to float"
  | .signalingNaN => "cannot convert signaling NaN to float"
  | .signalingCompared => "[<class 'decimal.InvalidOperation'>]"

namespace Double

/-- The double nearest to an integer, unless the integer is beyond every double. -/
def ofInt? (n : Int) : Except NumberFault Double :=
  match ofInt n with
  | .infinite _ => .error .integerTooLarge
  | x => .ok x

/-- The double of a decimal, unless it is a signaling NaN. -/
def ofDecimalValue? (d : Decimal) : Except NumberFault Double :=
  match d.toDouble? with
  | some x => .ok x
  | none => .error .signalingNaN

end Double

namespace Value

/-- A double when it is finite. -/
def finite? (x : Double) : Option Double := if x.isFinite then some x else none

/-- The finite number that the value is or writes. -/
def number? : Value → Except NumberFault (Option Double)
  | int n => do return finite? (← Double.ofInt? n)
  | double x => .ok (finite? x)
  | decimal d => do return finite? (← Double.ofDecimalValue? d)
  | text s => .ok (Double.ofText? (Text.trim s) >>= finite?)
  | _ => .ok none

/-- The double that the value is or writes, finite or not. A boolean is one or zero, and bytes
are read as ASCII text. -/
def asDouble? : Value → Except NumberFault (Option Double)
  | bool b => .ok (some (Double.ofNat (if b then 1 else 0)))
  | int n => some <$> Double.ofInt? n
  | double x => .ok (some x)
  | decimal d => some <$> Double.ofDecimalValue? d
  | text s => .ok (Double.ofText? s)
  | bytes data =>
    .ok (if data.all (· < 128) then
      Double.ofText? (String.ofList (data.map fun b => Char.ofNat b.toNat)) else none)
  | _ => .ok none

/-- Whether the value is blank as an answer: `null`, a missing field, an empty text, a numeric
zero or an empty collection. A boolean, a date and a byte string are never blank. -/
def isEmpty : Value → Except NumberFault Bool
  | null => .ok true
  | missing => .ok true
  | text s => .ok (s == "")
  | int n => .ok (n == 0)
  | double x => .ok (x.eq Double.zero)
  | decimal d => if d.isSignaling then .error .signalingCompared else .ok d.isZero
  | list items => .ok items.isEmpty
  | tuple items => .ok items.isEmpty
  | set items => .ok items.isEmpty
  | frozenSet items => .ok items.isEmpty
  | map members => .ok members.isEmpty
  | _ => .ok false

end Value
end Eligibility
