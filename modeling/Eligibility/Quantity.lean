/-
# Exact worth of numbers

Integers, doubles and decimals are compared by what they are worth, exactly.  A finite worth is
a sign, a coefficient without trailing zeros and a power of ten, with one form for zero, so two
numbers are worth the same exactly when their quantities are equal data.  Every double has such
a form, because a power of two divides a power of ten.
-/

import Eligibility.Decimal
import Eligibility.Double.Shortest

namespace Eligibility

/-- The exact worth of a number. -/
inductive Quantity where
  | finite (negative : Bool) (coefficient : Nat) (exponent : Int)
  | infinite (negative : Bool)
  | nan
  deriving DecidableEq

namespace Quantity

/-- The reduced form of `coefficient * 10 ^ exponent`. -/
def reduced (negative : Bool) (coefficient : Nat) (exponent : Int) : Quantity :=
  if coefficient = 0 then .finite false 0 0
  else
    let (core, count) := Double.stripZeros coefficient
    .finite negative core (exponent + count)

/-- The worth of an integer. -/
def ofInt (n : Int) : Quantity := reduced (decide (n < 0)) n.natAbs 0

/-- The worth of a double: its units times `5 ^ 1074`, over `10 ^ 1074`. -/
def ofDouble : Double → Quantity
  | .finite negative units _ => reduced negative (units * Nat.pow 5 1074) (-1074)
  | .infinite negative => .infinite negative
  | .nan => .nan

/-- The worth of a decimal. -/
def ofDecimal : Decimal → Quantity
  | .finite negative coefficient exponent => reduced negative coefficient exponent
  | .infinite negative => .infinite negative
  | .nan .. => .nan

/-- Whether two quantities are the same worth. A NaN is worth nothing, not even itself. -/
def same : Quantity → Quantity → Bool
  | .nan, _ => false
  | _, .nan => false
  | x, y => decide (x = y)

theorem same_iff {x y : Quantity} : x.same y = true ↔ x = y ∧ x ≠ .nan := by
  cases x <;> cases y <;> simp [same]

end Quantity
end Eligibility
