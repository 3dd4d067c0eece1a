/-
# Arithmetic on doubles keeps order

A larger quotient is never rounded to less (`nearest_mono`): within one step the remainders decide,
and across a power of two the smaller one stays at or below it while the larger one stays at or
above it.  Sum, quotient, product and rounding to places are each one exact quotient that is rounded
once, so on numbers that are not negative they all keep `Double.le`, infinities included
(`add_le_add`, `keeping_div`, `keeping_mul`, `keeping_roundPlaces`).

Adding positive zero changes nothing but negative zero (`add_zero`), and a sum that does not start
at negative zero never comes to it (`add_ne_negative_zero`).
-/

import Eligibility.Proofs.Double.ReadBack

namespace Eligibility

theorem roundHalfEven_mono {num num' : Nat} (le : num ≤ num') (den : Nat) :
    roundHalfEven num den ≤ roundHalfEven num' den := by
  have quotients : num / den ≤ num' / den := Nat.div_le_div_right le
  rcases Nat.lt_or_eq_of_le quotients with less | same
  · have upper := (roundHalfEven_bounds num den).2
    have lower := (roundHalfEven_bounds num' den).1
    omega
  · have rests : num % den ≤ num' % den := by
      have whole := Nat.div_add_mod num den
      have whole' := Nat.div_add_mod num' den
      rw [same] at whole
      omega
    simp only [roundHalfEven, same]
    split
    · split
      · exact le_rfl
      · split
        · omega
        · split <;> omega
    · split
      · split
        · omega
        · split <;> omega
      · split <;> split <;> (try split) <;> omega

namespace Double

/-! ### Rounding -/

theorem log2_mono {m n : Nat} (le : m ≤ n) : m.log2 ≤ n.log2 := by
  rcases Nat.eq_zero_or_pos m with rfl | pos
  · exact Nat.zero_le _
  · have nonzero : n ≠ 0 := by omega
    rw [Nat.le_log2 nonzero]
    exact (Nat.log2_self_le (by omega)).trans le

/-- A rounded quotient is at most `2 ^ 53` of its steps. -/
theorem nearest_le_steps (num den : Nat) :
    nearest num den ≤ twoTo 53 * step (num / den) := by
  have upper := (roundHalfEven_bounds num (den * step (num / den))).2
  have bound := quotient_lt num den
  exact Nat.mul_le_mul_right _ (by omega)

/-- **Rounding keeps order.** -/
theorem nearest_mono {num num' : Nat} (le : num ≤ num') (den : Nat) :
    nearest num den ≤ nearest num' den := by
  have bits : (num / den).log2 ≤ (num' / den).log2 := log2_mono (Nat.div_le_div_right le)
  rcases Nat.lt_or_ge (num' / den).log2 53 with small | large
  · -- Both quotients are counted in single units.
    have one (q : Nat) (few : q.log2 < 53) : step q = 1 := by
      have none : q.log2 - 52 = 0 := by omega
      rw [step, none]
      rfl
    simp only [nearest, one _ small, one _ (lt_of_le_of_lt bits small), Nat.mul_one]
    exact roundHalfEven_mono le den
  rcases Nat.lt_or_eq_of_le bits with less | same
  · calc nearest num den ≤ twoTo 53 * step (num / den) := nearest_le_steps num den
      _ = twoTo (53 + ((num / den).log2 - 52)) := (twoTo_add ..).symm
      _ ≤ twoTo (num' / den).log2 := twoTo_mono (by omega)
      _ ≤ nearest num' den := twoTo_log2_le_nearest (by omega)
  · have steps : step (num / den) = step (num' / den) := by rw [step, step, same]
    simp only [nearest, steps]
    exact Nat.mul_le_mul_right _ (roundHalfEven_mono le _)

/-- The units of a rounded quotient, where the limit stands for infinity. -/
def rounded (num den : Nat) : Nat := min (nearest num den) limit

theorem rounded_mono {num num' : Nat} (le : num ≤ num') (den : Nat) :
    rounded num den ≤ rounded num' den :=
  min_le_min_right limit (nearest_mono le den)

theorem rounded_le_limit (num den : Nat) : rounded num den ≤ limit := Nat.min_le_right ..

theorem rounded_of_exact {units : Nat} (exact : Exact units) : rounded units 1 = units := by
  have stays := nearest_of_exact (n := units) Nat.one_pos exact
  rw [Nat.mul_one] at stays
  rw [rounded, stays]
  exact Nat.min_eq_left exact.2.le

theorem rank_ofUnits (negative : Bool) (num den : Nat) :
    (ofUnits negative num den).rank = some (signed negative (rounded num den)) := by
  unfold ofUnits rounded
  split
  · next small => rw [rank, Nat.min_eq_left small.le]
  · next large => rw [rank, Nat.min_eq_right (Nat.le_of_not_lt large)]

/-- A quotient that is zero where it is negative has no sign to speak of. -/
theorem rank_ofUnits_of_nonneg {negative : Bool} {num : Nat} (zero : negative = true → num = 0)
    (den : Nat) : (ofUnits negative num den).rank = some (rounded num den : Int) := by
  rw [rank_ofUnits]
  cases negative with
  | false => rfl
  | true =>
    have none : rounded num den = 0 := by simp [zero rfl, rounded, nearest, roundHalfEven]
    rw [none]
    rfl

/-! ### The order -/

theorem le_iff {x y : Double} :
    x.le y = true ↔ ∃ a b, x.rank = some a ∧ y.rank = some b ∧ a ≤ b := by
  unfold le
  cases x.rank <;> cases y.rank <;> simp

theorem le_trans {x y z : Double} (first : x.le y) (second : y.le z) : x.le z := by
  obtain ⟨a, b, hx, hy, below⟩ := le_iff.1 first
  obtain ⟨b', c, hy', hz, below'⟩ := le_iff.1 second
  obtain rfl := Option.some.inj (hy.symm.trans hy')
  exact le_iff.2 ⟨a, c, hx, hz, below.trans below'⟩

/-- Numbers that are no NaN are in order one way round or the other. -/
theorem le_eq_not_lt {x y : Double} (hx : x ≠ .nan) (hy : y ≠ .nan) : y.le x = !x.lt y := by
  cases x with
  | nan => exact absurd rfl hx
  | _ =>
    cases y with
    | nan => exact absurd rfl hy
    | _ =>
      rw [Bool.eq_iff_iff]
      simp only [le, lt, rank, Bool.not_eq_true', decide_eq_true_eq, decide_eq_false_iff_not]
      omega

theorem ne_nan_of_le {x y : Double} (le : x.le y) : x ≠ .nan ∧ y ≠ .nan := by
  obtain ⟨a, b, hx, hy, -⟩ := le_iff.1 le
  refine ⟨?_, ?_⟩
  · rintro rfl
    cases hx
  · rintro rfl
    cases hy

theorem ne_nan_of_isFinite {x : Double} (finite : x.isFinite) : x ≠ .nan := by
  rintro rfl
  cases finite

/-- Equal numbers are in order, either way round. -/
theorem le_of_eq {x y : Double} (same : x.eq y) : y.le x := by
  unfold eq at same
  unfold le
  cases hx : x.rank <;> cases hy : y.rank <;> simp_all

/-- A number that is not negative is so many units, an infinite one as many as the limit. -/
theorem nonneg_iff {x : Double} : zero.le x = true ↔ ∃ n : Nat, x.rank = some (n : Int) := by
  rw [le_iff]
  constructor
  · rintro ⟨a, b, hzero, hx, le⟩
    obtain rfl : (0 : Int) = a := Option.some.inj hzero
    exact ⟨b.toNat, by rw [hx, Int.toNat_of_nonneg le]⟩
  · rintro ⟨n, hx⟩
    exact ⟨0, n, rfl, hx, Int.natCast_nonneg n⟩

/-- A number that is in order with some number is in order with itself: it is no NaN. -/
theorem le_refl_of_le {x y : Double} (le : x.le y) : x.le x := by
  obtain ⟨a, b, hx, -, -⟩ := le_iff.1 le
  exact le_iff.2 ⟨a, a, hx, hx, le_rfl⟩

theorem le_refl_of_nonneg {x : Double} (nonneg : zero.le x) : x.le x := by
  obtain ⟨n, worth⟩ := nonneg_iff.1 nonneg
  exact le_iff.2 ⟨n, n, worth, worth, le_rfl⟩

/-- Numbers in order, the smaller one not negative, in units. -/
theorem nonneg_le_iff {x y : Double} : (zero.le x = true ∧ x.le y = true) ↔
    ∃ m n : Nat, x.rank = some (m : Int) ∧ y.rank = some (n : Int) ∧ m ≤ n := by
  constructor
  · rintro ⟨nonneg, le⟩
    obtain ⟨m, hx⟩ := nonneg_iff.1 nonneg
    obtain ⟨n, hy⟩ := nonneg_iff.1 (le_trans nonneg le)
    obtain ⟨a, b, hx', hy', below⟩ := le_iff.1 le
    obtain rfl := Option.some.inj (hx.symm.trans hx')
    obtain rfl := Option.some.inj (hy.symm.trans hy')
    exact ⟨m, n, hx, hy, by omega⟩
  · rintro ⟨m, n, hx, hy, le⟩
    exact ⟨nonneg_iff.2 ⟨m, hx⟩, le_iff.2 ⟨m, n, hx, hy, by omega⟩⟩

theorem zero_le_zero : zero.le zero := by decide

/-- What is known of a number that is so many units: it is finite, and negative only when it is
zero, or it is infinite. -/
theorem rank_cases {x : Double} {n : Nat} (worth : x.rank = some (n : Int)) :
    (∃ negative exact, x = .finite negative n exact ∧ (negative = true → n = 0)) ∨
      x = .infinite false ∧ n = limit := by
  cases x with
  | nan => cases worth
  | infinite negative =>
    have same : signed negative limit = n := Option.some.inj worth
    have positive := limit_pos
    cases negative with
    | false => exact .inr ⟨rfl, by simp only [signed] at same; omega⟩
    | true => simp only [signed, if_true] at same; omega
  | finite negative units exact =>
    have same : signed negative units = n := Option.some.inj worth
    cases negative with
    | false =>
      obtain rfl : units = n := by simp only [signed] at same; omega
      exact .inl ⟨false, exact, rfl, nofun⟩
    | true =>
      obtain ⟨rfl, rfl⟩ : units = 0 ∧ n = 0 := by simp only [signed, if_true] at same; omega
      exact .inl ⟨true, exact, rfl, fun _ => rfl⟩

theorem isFinite_of_le {x y : Double} (nonneg : zero.le x) (le : x.le y) (finite : y.isFinite) :
    x.isFinite := by
  obtain ⟨m, n, hx, hy, below⟩ := nonneg_le_iff.1 ⟨nonneg, le⟩
  rcases rank_cases hx with ⟨_, _, rfl, -⟩ | ⟨rfl, top⟩
  · rfl
  rcases rank_cases hy with ⟨_, exact, rfl, -⟩ | ⟨rfl, -⟩
  · have small := exact.2
    omega
  · cases finite

/-! ### Sums -/

theorem rank_add {x y : Double} {m n : Nat} (hx : x.rank = some (m : Int))
    (hy : y.rank = some (n : Int)) : (x + y).rank = some (rounded (m + n) 1 : Int) := by
  have past (k : Nat) (large : limit ≤ k) : rounded k 1 = limit := by
    refine Nat.min_eq_right (limit_le_nearest ?_)
    rwa [Nat.div_one]
  rcases rank_cases hx with ⟨a, ex, rfl, za⟩ | ⟨rfl, top⟩
  · rcases rank_cases hy with ⟨b, ey, rfl, zb⟩ | ⟨rfl, top⟩
    · have total : signed a m + signed b n = ((m + n : Nat) : Int) := by
        cases a <;> cases b <;> simp_all [signed]
      show (if signed a m + signed b n = 0 then _ else _ : Double).rank = _
      rw [total]
      split
      · next none =>
        obtain none : m + n = 0 := by omega
        rw [none, rounded_of_exact exact_zero, rank]
        cases a <;> cases b <;> rfl
      · have positive : decide (((m + n : Nat) : Int) < 0) = false := decide_eq_false (by omega)
        rw [positive, Int.natAbs_natCast, rank_ofUnits]
        rfl
    · rw [past _ (by omega)]
      rfl
  · rw [past _ (by omega)]
    rcases rank_cases hy with ⟨b, ey, rfl, zb⟩ | ⟨rfl, top⟩
    · rfl
    · rfl

/-- Adding a finite number leads to no NaN. -/
theorem add_ne_nan {x y : Double} (hx : x ≠ .nan) (finite : y.isFinite) : x + y ≠ .nan := by
  cases y with
  | finite b n ey =>
    cases x with
    | nan => exact absurd rfl hx
    | infinite =>
      intro same
      cases same
    | finite a m ex =>
      show (if signed a m + signed b n = 0 then _ else _ : Double) ≠ _
      split
      · intro same
        cases same
      · unfold ofUnits
        split <;> intro same <;> cases same
  | _ => cases finite

theorem add_le_add {x x' y y' : Double} (nonneg : zero.le x) (le : x.le x') (nonneg' : zero.le y)
    (le' : y.le y') : (x + y).le (x' + y') := by
  obtain ⟨m, m', hx, hx', below⟩ := nonneg_le_iff.1 ⟨nonneg, le⟩
  obtain ⟨n, n', hy, hy', below'⟩ := nonneg_le_iff.1 ⟨nonneg', le'⟩
  refine le_iff.2 ⟨_, _, rank_add hx hy, rank_add hx' hy', ?_⟩
  exact Int.ofNat_le.2 (rounded_mono (by omega) 1)

theorem add_nonneg {x y : Double} (nonneg : zero.le x) (nonneg' : zero.le y) : zero.le (x + y) := by
  obtain ⟨m, hx⟩ := nonneg_iff.1 nonneg
  obtain ⟨n, hy⟩ := nonneg_iff.1 nonneg'
  exact nonneg_iff.2 ⟨_, rank_add hx hy⟩

/-- Negative zero. -/
def negativeZero : Double := .finite true 0 exact_zero

theorem ofUnits_of_exact {units : Nat} (exact : Exact units) (negative : Bool) :
    ofUnits negative units 1 = .finite negative units exact := by
  have stays := nearest_of_exact (n := units) Nat.one_pos exact
  rw [Nat.mul_one] at stays
  exact ofUnits_eq_finite stays exact negative

theorem add_zero {x : Double} (notNegative : x ≠ negativeZero) : x + zero = x := by
  cases x with
  | nan => rfl
  | infinite => rfl
  | finite negative units exact =>
    show (if signed negative units + signed false 0 = 0 then _ else _ : Double) = _
    have total : signed negative units + signed false 0 = signed negative units := by
      simp [signed]
    rw [total]
    split
    · next none =>
      obtain rfl : units = 0 := by cases negative <;> simp [signed] at none <;> exact none
      cases negative with
      | false => rfl
      | true => exact absurd rfl notNegative
    · next some =>
      have sign : decide (signed negative units < 0) = negative := by
        cases negative <;> simp [signed] at some ⊢
        omega
      have size : (signed negative units).natAbs = units := by cases negative <;> simp [signed]
      rw [sign, size, ofUnits_of_exact exact]

theorem nearest_pos {n : Nat} (pos : 0 < n) : 0 < nearest n 1 := by
  have one : nearest 1 1 = 1 := by decide +kernel
  have mono := nearest_mono (show 1 ≤ n from pos) 1
  omega

theorem add_ne_negative_zero {x : Double} (notNegative : x ≠ negativeZero) (y : Double) :
    x + y ≠ negativeZero := by
  cases x with
  | nan => cases y <;> intro same <;> cases same
  | infinite a =>
    cases y with
    | infinite b =>
      show (if a = b then _ else _ : Double) ≠ _
      split <;> intro same <;> cases same
    | _ =>
      intro same
      cases same
  | finite a m ex =>
    cases y with
    | nan | infinite =>
      intro same
      cases same
    | finite b n ey =>
      show (if signed a m + signed b n = 0 then _ else _ : Double) ≠ _
      split
      · next none =>
        -- A sum of nothing is negative only when both numbers are, and then both are zero.
        intro negative
        have both : (a && b) = true := (Double.finite.inj negative).1
        obtain ⟨rfl, rfl⟩ := Bool.and_eq_true_iff.1 both
        obtain rfl : m = 0 := by simp only [signed, if_true] at none; omega
        exact notNegative rfl
      · next some =>
        unfold ofUnits
        split
        · intro negative
          have empty : nearest _ 1 = 0 := (Double.finite.inj negative).2
          have full := nearest_pos (Int.natAbs_pos.2 some)
          omega
        · intro same
          cases same

/-! ### Quotients, products, rounding to places -/

theorem rank_ratio (part whole : Nat) :
    (ratio part whole).rank = some (rounded (unit * part) whole : Int) :=
  rank_ofUnits ..

theorem ratio_le_ratio {part part' : Nat} (le : part ≤ part') (whole : Nat) :
    (ratio part whole).le (ratio part' whole) :=
  le_iff.2 ⟨_, _, rank_ratio .., rank_ratio .., Int.ofNat_le.2 (rounded_mono (Nat.mul_le_mul_left _ le) _)⟩

theorem ratio_nonneg (part whole : Nat) : zero.le (ratio part whole) :=
  nonneg_iff.2 ⟨_, rank_ratio ..⟩

/-- What `f` makes of a number of units, where an infinite number stays infinite. -/
def unlessInfinite (f : Nat → Nat) (n : Nat) : Nat := if n = limit then limit else f n

/-- An operation that works on units so, rounding an exact quotient that grows with them, keeps
order among numbers that are not negative. -/
structure Keeping (op : Double → Double) (f : Nat → Nat) : Prop where
  rank : ∀ {x : Double} {n : Nat}, x.rank = some (n : Int) →
    (op x).rank = some (unlessInfinite f n : Int)
  mono : ∀ {m n : Nat}, m ≤ n → f m ≤ f n
  bound : ∀ n, f n ≤ limit

namespace Keeping

variable {op : Double → Double} {f : Nat → Nat}

theorem nonneg (keeps : Keeping op f) {x : Double} (nonneg : zero.le x) : zero.le (op x) := by
  obtain ⟨n, worth⟩ := nonneg_iff.1 nonneg
  exact nonneg_iff.2 ⟨_, keeps.rank worth⟩

theorem le (keeps : Keeping op f) {x y : Double} (nonneg : zero.le x) (le : x.le y) :
    (op x).le (op y) := by
  obtain ⟨m, n, hx, hy, below⟩ := nonneg_le_iff.1 ⟨nonneg, le⟩
  have top : n ≤ limit := by
    rcases rank_cases hy with ⟨_, exact, -, -⟩ | ⟨-, same⟩
    · exact exact.2.le
    · exact same.le
  refine le_iff.2 ⟨_, _, keeps.rank hx, keeps.rank hy, Int.ofNat_le.2 ?_⟩
  unfold unlessInfinite
  split
  · rw [if_pos (by omega)]
  · split
    · exact keeps.bound m
    · exact keeps.mono below

end Keeping

theorem keeping_div {w : Double} {n : Nat} (worth : w.rank = some (n : Int)) (finite : w.isFinite)
    (nonzero : n ≠ 0) : Keeping (· / w) fun m => rounded (unit * m) n where
  rank {x m} hx := by
    rcases rank_cases worth with ⟨b, exact, rfl, zero⟩ | ⟨rfl, -⟩
    · obtain rfl : b = false := Bool.eq_false_iff.2 fun negative => nonzero (zero negative)
      rcases rank_cases hx with ⟨a, ex, rfl, za⟩ | ⟨rfl, top⟩
      · have unsigned : (a != false) = true → unit * m = 0 := fun negative => by
          rw [za (by simpa using negative), Nat.mul_zero]
        show (if n = 0 then _ else _ : Double).rank = _
        rw [if_neg nonzero, rank_ofUnits_of_nonneg unsigned, unlessInfinite, if_neg ex.2.ne]
      · rw [unlessInfinite, if_pos top]
        rfl
    · cases finite
  mono le := rounded_mono (Nat.mul_le_mul_left _ le) n
  bound _ := rounded_le_limit ..

theorem finite_mul_finite (a b : Bool) {m n : Nat} (ex : Exact m) (ey : Exact n) :
    finite a m ex * finite b n ey = ofUnits (a != b) (m * n) unit := by
  show mul _ _ = _
  rw [mul]

theorem keeping_mul {w : Double} {n : Nat} (worth : w.rank = some (n : Int)) (finite : w.isFinite)
    (nonzero : n ≠ 0) : Keeping (· * w) fun m => rounded (m * n) unit where
  rank {x m} hx := by
    rcases rank_cases worth with ⟨b, exact, rfl, zero⟩ | ⟨rfl, -⟩
    · obtain rfl : b = false := Bool.eq_false_iff.2 fun negative => nonzero (zero negative)
      rcases rank_cases hx with ⟨a, ex, rfl, za⟩ | ⟨rfl, top⟩
      · have unsigned : (a != false) = true → m * n = 0 := fun negative => by
          rw [za (by simpa using negative), Nat.zero_mul]
        rw [finite_mul_finite, rank_ofUnits_of_nonneg unsigned, unlessInfinite, if_neg ex.2.ne]
      · show (if n = 0 then _ else _ : Double).rank = _
        rw [if_neg nonzero, unlessInfinite, if_pos top]
        rfl
    · cases finite
  mono le := rounded_mono (Nat.mul_le_mul_right _ le) unit
  bound _ := rounded_le_limit ..

theorem keeping_roundPlaces (places : Nat) : Keeping (roundPlaces places) fun m =>
    rounded (unit * roundHalfEven (m * Nat.pow 10 places) unit) (Nat.pow 10 places) where
  rank {x m} hx := by
    rcases rank_cases hx with ⟨a, ex, rfl, za⟩ | ⟨rfl, top⟩
    · have unsigned : a = true → unit * roundHalfEven (m * Nat.pow 10 places) unit = 0 :=
        fun negative => by simp [za negative, roundHalfEven]
      show (ofUnits a _ _).rank = _
      rw [rank_ofUnits_of_nonneg unsigned, unlessInfinite, if_neg ex.2.ne]
    · rw [unlessInfinite, if_pos top]
      rfl
  mono le := rounded_mono (Nat.mul_le_mul_left _ (roundHalfEven_mono (Nat.mul_le_mul_right _ le) _)) _
  bound _ := rounded_le_limit ..

/-- A hundred is finite and worth a number of units that is not zero. -/
theorem hundred_worth : hundred.isFinite = true ∧ ∃ n : Nat, hundred.rank = some (n : Int) ∧ n ≠ 0 := by
  have positive : zero.lt hundred = true := by decide +kernel
  have nonneg : zero.le hundred = true := by decide +kernel
  obtain ⟨n, worth⟩ := nonneg_iff.1 nonneg
  refine ⟨by decide +kernel, n, worth, ?_⟩
  rintro rfl
  rw [lt, worth] at positive
  cases positive

end Double
end Eligibility
