/-
# Doubles as counts of the smallest unit

Every finite binary64 number is a whole number of units of `2 ^ -1074`, so a finite
`Double` is a sign and a natural number `units`. The number has to be *exact*: at most
53 significant bits, and below `2 ^ 2098` units (that is, below `2 ^ 1024`). The condition
is part of the type, so equality of doubles is equality of data, and the two zeros differ
only in their sign.

Rounding is one function, `nearest`: the exact quotient `num / den`, counted in units, goes
to the nearest exact number of units, and a tie goes to the even multiple of the local step.
Sum, product, quotient, conversion from integers and rounding to two places are each one
exact quotient, rounded once.

Main statements: `exact_nearest` (rounding lands on the grid) and `nearest_of_exact`
(rounding moves no exact number).
-/

namespace Eligibility

/-- The quotient `num / den` rounded to a whole number, a half going to the even neighbour. -/
def roundHalfEven (num den : Nat) : Nat :=
  let quotient := num / den
  let rest := num % den
  if 2 * rest < den then quotient
  else if den < 2 * rest then quotient + 1
  else if quotient % 2 = 0 then quotient else quotient + 1

theorem roundHalfEven_bounds (num den : Nat) :
    num / den ≤ roundHalfEven num den ∧ roundHalfEven num den ≤ num / den + 1 := by
  unfold roundHalfEven
  dsimp only
  split
  · omega
  · split
    · omega
    · split <;> omega

theorem roundHalfEven_mul (n den : Nat) (pos : 0 < den) :
    roundHalfEven (n * den) den = n := by
  simp [roundHalfEven, Nat.mul_div_cancel _ pos, Nat.mul_mod_left, pos]

namespace Double

/-- The power of two with an exponent. -/
def twoTo (exponent : Nat) : Nat := Nat.pow 2 exponent

theorem twoTo_pos (exponent : Nat) : 0 < twoTo exponent := Nat.two_pow_pos exponent

/-- The distance, in units, between neighbouring exact numbers around `n`: one unit up to
53 significant bits, then twice as much for every further bit. -/
def step (n : Nat) : Nat := twoTo (n.log2 - 52)

/-- The first number of units that is too large for a finite double. -/
def limit : Nat := twoTo 2098

/-- The units that make up one. It is the first factor wherever it is multiplied, so that a product
with an unknown number stays as it is. -/
def unit : Nat := twoTo 1074

/-- A number of units that a finite double can hold. -/
def Exact (n : Nat) : Prop := n % step n = 0 ∧ n < limit

instance (n : Nat) : Decidable (Exact n) := inferInstanceAs (Decidable (_ ∧ _))

theorem unit_pos : 0 < unit := twoTo_pos 1074

theorem step_pos (n : Nat) : 0 < step n := twoTo_pos _

theorem limit_pos : 0 < limit := twoTo_pos 2098

theorem exact_zero : Exact 0 := ⟨Nat.zero_mod _, limit_pos⟩

/-- The exact number of units nearest to `num / den`, a tie going to the even multiple of
the step. -/
def nearest (num den : Nat) : Nat :=
  let width := step (num / den)
  roundHalfEven num (den * width) * width

theorem mod_step_of_le {m e : Nat} (h : m ≤ twoTo 53) :
    (m * twoTo e) % step (m * twoTo e) = 0 := by
  apply Nat.mod_eq_zero_of_dvd
  simp only [step, twoTo, Nat.pow_eq] at h ⊢
  rcases Nat.eq_zero_or_pos m with rfl | hm
  · simp
  rcases Nat.lt_or_eq_of_le h with hlt | rfl
  · refine Nat.dvd_trans (Nat.pow_dvd_pow 2 ?_) (Nat.dvd_mul_left _ _)
    have : (m * 2 ^ e).log2 < 53 + e := by
      rw [Nat.log2_lt (Nat.ne_of_gt (Nat.mul_pos hm (Nat.two_pow_pos e))), Nat.pow_add]
      exact Nat.mul_lt_mul_of_pos_right hlt (Nat.two_pow_pos e)
    omega
  · rw [← Nat.pow_add, Nat.log2_two_pow]
    exact Nat.pow_dvd_pow 2 (by omega)

theorem quotient_lt (num den : Nat) :
    num / (den * step (num / den)) < twoTo 53 := by
  rw [← Nat.div_div_eq_div_mul]
  generalize num / den = q
  rw [Nat.div_lt_iff_lt_mul (step_pos q)]
  simp only [step, twoTo, Nat.pow_eq]
  rw [← Nat.pow_add]
  refine Nat.lt_of_lt_of_le Nat.lt_log2_self (Nat.pow_le_pow_right (by decide) ?_)
  omega

/-- **Rounding lands on the grid**, unless the result is too large for any finite double. -/
theorem exact_nearest {num den : Nat} (small : nearest num den < limit) :
    Exact (nearest num den) := by
  refine ⟨?_, small⟩
  unfold nearest
  dsimp only
  apply mod_step_of_le
  have upper := (roundHalfEven_bounds num (den * step (num / den))).2
  have bound := quotient_lt num den
  omega

/-- **Rounding moves no exact number.** -/
theorem nearest_of_exact {n den : Nat} (pos : 0 < den) (h : Exact n) :
    nearest (n * den) den = n := by
  unfold nearest
  rw [Nat.mul_div_cancel _ pos]
  dsimp only
  obtain ⟨k, hk⟩ := Nat.dvd_of_mod_eq_zero h.1
  have : n * den = k * (den * step n) := by
    rw [Nat.mul_left_comm, ← Nat.mul_comm den, Nat.mul_comm k, ← hk]
  rw [this, roundHalfEven_mul _ _ (Nat.mul_pos pos (step_pos n)), Nat.mul_comm, ← hk]

end Double

/-- A binary64 number. -/
inductive Double where
  | nan
  | infinite (negative : Bool)
  | finite (negative : Bool) (units : Nat) (exact : Double.Exact units)
  deriving DecidableEq

namespace Double

/-- The double nearest to a quotient of `num` units by `den`; an infinity past the largest. -/
def ofUnits (negative : Bool) (num den : Nat) : Double :=
  if h : nearest num den < limit then .finite negative (nearest num den) (exact_nearest h)
  else .infinite negative

/-- Positive zero. -/
def zero : Double := .finite false 0 exact_zero

instance : Inhabited Double := ⟨zero⟩

/-- The double nearest to an integer; an infinity when the integer is out of range. -/
def ofInt (n : Int) : Double := ofUnits (decide (n < 0)) (unit * n.natAbs) 1

/-- The double nearest to a natural number. -/
def ofNat (n : Nat) : Double := ofInt n

/-- The double nearest to the quotient of two natural numbers. -/
def ratio (part whole : Nat) : Double := ofUnits false (unit * part) whole

/-- The double nearest to `digits * 10 ^ exponent`. A value beyond every double, or below
half of the smallest, is settled by its magnitude alone, so no huge power is computed. -/
def ofDecimal (negative : Bool) (digits : Nat) (exponent : Int) : Double :=
  if digits = 0 then .finite negative 0 exact_zero
  else if exponent > 400 then .infinite negative
  else if exponent + (digits.log2 : Int) < -1200 then .finite negative 0 exact_zero
  else if exponent ≥ 0 then ofUnits negative (unit * (digits * Nat.pow 10 exponent.toNat)) 1
  else ofUnits negative (unit * digits) (Nat.pow 10 (-exponent).toNat)

/-- Whether the number is neither infinite nor a NaN. -/
def isFinite : Double → Bool
  | .finite .. => true
  | _ => false

/-- Whether the number is a NaN. -/
def isNaN : Double → Bool
  | .nan => true
  | _ => false

/-- The signed number of units. -/
def signed (negative : Bool) (units : Nat) : Int := if negative then -units else units

/-- The place of a number in the order of the extended line: signed units, with the
infinities at `limit` on either side. A NaN has no place. -/
def rank : Double → Option Int
  | .nan => none
  | .infinite negative => some (signed negative limit)
  | .finite negative units _ => some (signed negative units)

/-- Strictly below; false as soon as an operand is a NaN. -/
def lt (x y : Double) : Bool :=
  match x.rank, y.rank with
  | some a, some b => decide (a < b)
  | _, _ => false

/-- Below or equal; false as soon as an operand is a NaN. -/
def le (x y : Double) : Bool :=
  match x.rank, y.rank with
  | some a, some b => decide (a ≤ b)
  | _, _ => false

/-- Numeric equality: the zeros are equal, and a NaN equals nothing. -/
def eq (x y : Double) : Bool :=
  match x.rank, y.rank with
  | some a, some b => decide (a = b)
  | _, _ => false

/-- The number with its sign changed. -/
def neg : Double → Double
  | .nan => .nan
  | .infinite negative => .infinite (!negative)
  | .finite negative units exact => .finite (!negative) units exact

/-- The correctly rounded sum. Opposite infinities have none; an exact zero is negative only
when both operands are. -/
def add : Double → Double → Double
  | .nan, _ => .nan
  | _, .nan => .nan
  | .infinite a, .infinite b => if a = b then .infinite a else .nan
  | .infinite a, .finite .. => .infinite a
  | .finite .., .infinite b => .infinite b
  | .finite a m _, .finite b n _ =>
    let total := signed a m + signed b n
    if total = 0 then .finite (a && b) 0 exact_zero
    else ofUnits (decide (total < 0)) total.natAbs 1

/-- The correctly rounded product. -/
def mul : Double → Double → Double
  | .nan, _ => .nan
  | _, .nan => .nan
  | .infinite a, .infinite b => .infinite (a != b)
  | .infinite a, .finite b n _ => if n = 0 then .nan else .infinite (a != b)
  | .finite a m _, .infinite b => if m = 0 then .nan else .infinite (a != b)
  | .finite a m _, .finite b n _ => ofUnits (a != b) (m * n) unit

/-- The correctly rounded quotient. -/
def div : Double → Double → Double
  | .nan, _ => .nan
  | _, .nan => .nan
  | .infinite _, .infinite _ => .nan
  | .infinite a, .finite b _ _ => .infinite (a != b)
  | .finite a _ _, .infinite b => .finite (a != b) 0 exact_zero
  | .finite a m _, .finite b n _ =>
    if n = 0 then (if m = 0 then .nan else .infinite (a != b))
    else ofUnits (a != b) (unit * m) n

/-- The double nearest to the number rounded to `places` decimal places, where the exact
value decides and a half goes to the even last place. -/
def roundPlaces (places : Nat) : Double → Double
  | .finite negative units _ =>
    let scaled := roundHalfEven (units * Nat.pow 10 places) unit
    ofUnits negative (unit * scaled) (Nat.pow 10 places)
  | x => x

/-- The whole part, cut toward zero, and the fraction that is left, which is exact. -/
def split : Double → Option (Int × Double)
  | .finite negative units _ =>
    some (signed negative (units / unit), ofUnits negative (units % unit) 1)
  | _ => none

/-- The nearest integer, a half going to the even one. -/
def toIntHalfEven : Double → Option Int
  | .finite negative units _ => some (signed negative (roundHalfEven units unit))
  | _ => none

/-- The integer that the number is, when it is one. -/
def toInt? : Double → Option Int
  | .finite negative units _ =>
    if units % unit = 0 then some (signed negative (units / unit)) else none
  | _ => none

instance : Add Double := ⟨add⟩
instance : Mul Double := ⟨mul⟩
instance : Div Double := ⟨div⟩
instance : Neg Double := ⟨neg⟩

/-- One hundred. -/
def hundred : Double := ofNat 100

@[simp] theorem lt_self (x : Double) : x.lt x = false := by
  unfold lt
  cases x.rank <;> simp

theorem eq_comm (x y : Double) : x.eq y = y.eq x := by
  unfold eq
  cases x.rank <;> cases y.rank <;> simp [Eq.comm]

theorem eq_trans {x y z : Double} (h₁ : x.eq y) (h₂ : y.eq z) : x.eq z := by
  unfold eq at *
  cases hx : x.rank <;> cases hy : y.rank <;> cases hz : z.rank <;> simp_all

end Double
end Eligibility
