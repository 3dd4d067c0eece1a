/-
# Decimals of unlimited precision

A decimal keeps the coefficient and the exponent that it was written with, so `1.5` and `1.50`
are different decimals of the same worth.  Its text is positional while the exponent is not
positive and the number is at least a millionth; otherwise it is scientific, with a signed
exponent.  A NaN may be signaling and may carry digits; a signaling one has no double.
-/

import Eligibility.Double.Reading

namespace Eligibility

/-- A decimal number. -/
inductive Decimal where
  | finite (negative : Bool) (coefficient : Nat) (exponent : Int)
  | infinite (negative : Bool)
  | nan (negative signaling : Bool) (payload : String)
  deriving DecidableEq

namespace Decimal

/-- The payload digits of a NaN, without leading zeros; none when something else stands there. -/
def payload? (cs : List Char) : Option String :=
  if cs.all Char.isDigit then some (String.ofList (cs.dropWhile (· == '0'))) else none

/-- The NaN that letters and payload digits write. -/
def nan? (negative : Bool) (cs : List Char) : Option Decimal :=
  match cs.map Char.toLower with
  | 's' :: 'n' :: 'a' :: 'n' :: digits => (payload? digits).map (.nan negative true)
  | 'n' :: 'a' :: 'n' :: digits => (payload? digits).map (.nan negative false)
  | _ => none

/-- The decimal that a text writes. -/
def ofText? (s : String) : Option Decimal := do
  let cs := (Text.trimBy Text.isBlank s.toList).filter (· != '_') |>.map Text.asciiOf
  let (negative, body) := Text.readSign cs
  match nan? negative body with
  | some found => some found
  | none =>
    match Text.readNumeral? cs with
    | some (.number negative digits exponent) => some (.finite negative digits exponent)
    | some (.infinite negative) => some (.infinite negative)
    | _ => none

/-- The text of a finite decimal without its sign. -/
def magnitudeText (coefficient : Nat) (exponent : Int) : List Char :=
  let shown := Nat.toDigits 10 coefficient
  let left := shown.length + exponent
  let point := if exponent ≤ 0 && left > -6 then left else 1
  let body :=
    if point ≤ 0 then '0' :: '.' :: (List.replicate (-point).toNat '0' ++ shown)
    else if point ≥ shown.length then shown ++ List.replicate (point - shown.length).toNat '0'
    else shown.take point.toNat ++ '.' :: shown.drop point.toNat
  let power := left - point
  if power = 0 then body
  else body ++ 'E' :: (if power < 0 then '-' else '+') :: Nat.toDigits 10 power.natAbs

/-- The text of a decimal. -/
def text : Decimal → String
  | .finite negative coefficient exponent =>
    let body := magnitudeText coefficient exponent
    String.ofList (if negative then '-' :: body else body)
  | .infinite negative => if negative then "-Infinity" else "Infinity"
  | .nan negative signaling payload =>
    (if negative then "-" else "") ++ (if signaling then "sNaN" else "NaN") ++ payload

/-- The nearest double; a signaling NaN has none. -/
def toDouble? : Decimal → Option Double
  | .finite negative coefficient exponent => some (.ofDecimal negative coefficient exponent)
  | .infinite negative => some (.infinite negative)
  | .nan _ signaling _ => if signaling then none else some .nan

/-- Whether the decimal is a signaling NaN, which no operation accepts. -/
def isSignaling : Decimal → Bool
  | .nan _ signaling _ => signaling
  | _ => false

/-- Whether the decimal is a zero of either sign. -/
def isZero : Decimal → Bool
  | .finite _ coefficient _ => coefficient == 0
  | _ => false

end Decimal
end Eligibility
