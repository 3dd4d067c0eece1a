/-
# A double reads back from its shortest decimal

Rounding a quotient depends on its worth alone (`nearest_eq_of_ratio`), so the two shortcuts of
`Double.ofDecimal` for huge and for tiny numbers change nothing: a decimal is always the one
rounded quotient `digits * 10 ^ exponent` in units (`ofDecimal_eq_ofUnits`).  Zeros may therefore
move between the digits and the exponent (`ofDecimal_mul_pow`).

`Double.shortest` tries every candidate before it accepts one, and its last resort is the exact
expansion.  Both read back to the double that was written (`ofDecimal_shortest`).
-/

import Eligibility.Double.Shortest
import Mathlib.Tactic.Positivity
import Mathlib.Tactic.Ring

namespace Eligibility

theorem roundHalfEven_mul_mul {c : Nat} (pos : 0 < c) (num den : Nat) :
    roundHalfEven (c * num) (c * den) = roundHalfEven num den := by
  have less (a b : Nat) : c * a < c * b ↔ a < b := Nat.mul_lt_mul_left pos
  simp only [roundHalfEven, Nat.mul_div_mul_left _ _ pos, Nat.mul_mod_mul_left,
    Nat.mul_left_comm 2 c, less]

namespace Double

theorem nearest_mul_mul {c : Nat} (pos : 0 < c) (num den : Nat) :
    nearest (c * num) (c * den) = nearest num den := by
  simp only [nearest, Nat.mul_div_mul_left _ _ pos, Nat.mul_assoc, roundHalfEven_mul_mul pos]

/-- **Rounding sees only the worth of a quotient.** -/
theorem nearest_eq_of_ratio {num den num' den' : Nat} (pos : 0 < den) (pos' : 0 < den')
    (same : num * den' = num' * den) : nearest num den = nearest num' den' := by
  rw [← nearest_mul_mul pos' num den, ← nearest_mul_mul pos num' den', Nat.mul_comm den' num, same,
    Nat.mul_comm num' den, Nat.mul_comm den' den]

theorem twoTo_add (m n : Nat) : twoTo (m + n) = twoTo m * twoTo n := Nat.pow_add 2 m n

theorem twoTo_mono {m n : Nat} (le : m ≤ n) : twoTo m ≤ twoTo n :=
  Nat.pow_le_pow_right (by decide) le

/-- A rounded quotient does not fall below the power of two that the quotient has reached. -/
theorem twoTo_log2_le_nearest {num den : Nat} (large : 52 ≤ (num / den).log2) :
    twoTo (num / den).log2 ≤ nearest num den := by
  set q := num / den with hq
  have nonzero : q ≠ 0 := by
    rintro zero
    simp [zero] at large
  have split : twoTo q.log2 = twoTo 52 * step q := by
    rw [step, ← twoTo_add, Nat.add_sub_cancel' large]
  have lower : twoTo 52 ≤ q / step q := by
    rw [Nat.le_div_iff_mul_le (step_pos q), ← split]
    exact Nat.log2_self_le nonzero
  have rounded : q / step q ≤ roundHalfEven num (den * step q) := by
    rw [hq, Nat.div_div_eq_div_mul]
    exact (roundHalfEven_bounds _ _).1
  calc twoTo q.log2 = twoTo 52 * step q := split
    _ ≤ nearest num den := Nat.mul_le_mul_right _ (lower.trans rounded)

theorem le_log2_of_twoTo_le {n exponent : Nat} (large : twoTo exponent ≤ n) :
    exponent ≤ n.log2 :=
  (Nat.le_log2 (Nat.ne_of_gt ((twoTo_pos exponent).trans_le large))).2 large

theorem limit_le_nearest {num den : Nat} (large : limit ≤ num / den) :
    limit ≤ nearest num den := by
  have bits : 2098 ≤ (num / den).log2 := le_log2_of_twoTo_le large
  calc limit ≤ twoTo (num / den).log2 := twoTo_mono bits
    _ ≤ nearest num den := twoTo_log2_le_nearest (by omega)

theorem nearest_eq_zero {num den : Nat} (small : 2 * num < den) : nearest num den = 0 := by
  have quotient : num / den = 0 := Nat.div_eq_of_lt (by omega)
  have one : step 0 = 1 := rfl
  simp [nearest, quotient, one, roundHalfEven, Nat.mod_eq_of_lt (show num < den by omega), small]

theorem ofUnits_congr (negative : Bool) {num den num' den' : Nat}
    (same : nearest num den = nearest num' den') :
    ofUnits negative num den = ofUnits negative num' den' := by
  simp only [ofUnits, same]

theorem ofUnits_eq_finite {num den units : Nat} (rounded : nearest num den = units)
    (exact : Exact units) (negative : Bool) :
    ofUnits negative num den = .finite negative units exact := by
  subst rounded
  simp [ofUnits, exact.2]

/-- The quotient, in units, that a decimal is worth. -/
def quotientOf (digits : Nat) (exponent : Int) : Nat × Nat :=
  (unit * (digits * 10 ^ exponent.toNat), 10 ^ (-exponent).toNat)

private theorem two_pow_le_ten_pow (n : Nat) : 2 ^ n ≤ 10 ^ n := Nat.pow_le_pow_left (by decide) n

private theorem nearest_of_large {digits : Nat} (nonzero : digits ≠ 0) {exponent : Nat}
    (large : 400 < exponent) : limit ≤ nearest (unit * (digits * 10 ^ exponent)) 1 := by
  apply limit_le_nearest
  rw [Nat.div_one]
  have eight (n : Nat) : twoTo (3 * n) ≤ 10 ^ n := by
    rw [twoTo, Nat.pow_eq, Nat.pow_mul]
    exact Nat.pow_le_pow_left (by decide) n
  calc limit = unit * twoTo 1024 := by rw [limit, unit, ← twoTo_add]
    _ ≤ unit * twoTo (3 * exponent) := Nat.mul_le_mul_left _ (twoTo_mono (by omega))
    _ ≤ unit * 10 ^ exponent := Nat.mul_le_mul_left _ (eight exponent)
    _ ≤ unit * (digits * 10 ^ exponent) :=
      Nat.mul_le_mul_left _ (Nat.le_mul_of_pos_left _ (Nat.pos_of_ne_zero nonzero))

private theorem nearest_of_tiny {digits place : Nat} (tiny : digits.log2 + 1200 < place) :
    nearest (unit * digits) (10 ^ place) = 0 := by
  apply nearest_eq_zero
  have bits : digits < 2 ^ (digits.log2 + 1) := Nat.lt_log2_self
  calc 2 * (unit * digits) < 2 * (unit * 2 ^ (digits.log2 + 1)) := by
        have := Nat.mul_lt_mul_of_pos_left bits unit_pos
        omega
    _ = 2 ^ (digits.log2 + 1076) := by
      simp only [unit, twoTo, Nat.pow_eq, ← Nat.pow_add, ← Nat.pow_succ']
      congr 1
      omega
    _ ≤ 2 ^ place := Nat.pow_le_pow_right (by decide) (by omega)
    _ ≤ 10 ^ place := two_pow_le_ten_pow place

/-- **A decimal is one rounded quotient**, whatever its size. -/
theorem ofDecimal_eq_ofUnits (negative : Bool) {digits : Nat} (nonzero : digits ≠ 0)
    (exponent : Int) :
    ofDecimal negative digits exponent =
      ofUnits negative (quotientOf digits exponent).1 (quotientOf digits exponent).2 := by
  unfold ofDecimal quotientOf
  rw [if_neg nonzero]
  split
  · next large =>
    have none : (-exponent).toNat = 0 := by omega
    have big : limit ≤ nearest (unit * (digits * 10 ^ exponent.toNat)) 1 :=
      nearest_of_large nonzero (by omega)
    simp [ofUnits, none, Nat.not_lt.2 big]
  split
  · next tiny =>
    have none : exponent.toNat = 0 := by omega
    have zero : nearest (unit * digits) (10 ^ (-exponent).toNat) = 0 :=
      nearest_of_tiny (by omega)
    simp only [none, Nat.pow_zero, Nat.mul_one]
    exact (ofUnits_eq_finite zero exact_zero negative).symm
  split
  · next whole =>
    have none : (-exponent).toNat = 0 := by omega
    simp [none]
  · next part =>
    have none : exponent.toNat = 0 := by omega
    simp [none]

/-- **Zeros move freely** between the digits of a decimal and its exponent. -/
theorem ofDecimal_mul_pow (negative : Bool) (digits count : Nat) (exponent : Int) :
    ofDecimal negative (digits * 10 ^ count) (exponent - count) =
      ofDecimal negative digits exponent := by
  by_cases nonzero : digits = 0
  · simp [nonzero, ofDecimal]
  have nonzero' : digits * 10 ^ count ≠ 0 := by positivity
  rw [ofDecimal_eq_ofUnits _ nonzero, ofDecimal_eq_ofUnits _ nonzero']
  apply ofUnits_congr
  simp only [quotientOf]
  refine nearest_eq_of_ratio (by positivity) (by positivity) ?_
  have moved : count + ((exponent - count).toNat + (-exponent).toNat) =
      exponent.toNat + (-(exponent - count)).toNat := by omega
  calc unit * (digits * 10 ^ count * 10 ^ (exponent - count).toNat) * 10 ^ (-exponent).toNat
      = unit * digits * 10 ^ (count + ((exponent - count).toNat + (-exponent).toNat)) := by
        rw [pow_add, pow_add]
        ring
    _ = unit * (digits * 10 ^ exponent.toNat) * 10 ^ (-(exponent - count)).toNat := by
      rw [moved, pow_add]
      ring

/-! ### The shortest decimal -/

theorem nearest_of_readsBack {units digits : Nat} {place : Int}
    (back : readsBack units digits place = true) (nonzero : units ≠ 0) :
    digits ≠ 0 ∧ nearest (quotientOf digits place).1 (quotientOf digits place).2 = units := by
  have some : digits ≠ 0 := by
    rintro rfl
    simp [readsBack, ofDecimal, nonzero.symm] at back
  refine ⟨some, ?_⟩
  unfold readsBack at back
  rw [ofDecimal_eq_ofUnits _ some, ofUnits] at back
  split at back
  · next found =>
    split at found
    · cases found
      simpa using back
    · cases found
  · cases back

theorem ofDecimal_of_readsBack {units digits : Nat} {place : Int}
    (back : readsBack units digits place = true) (nonzero : units ≠ 0) (exact : Exact units)
    (negative : Bool) : ofDecimal negative digits place = .finite negative units exact := by
  obtain ⟨some, rounded⟩ := nearest_of_readsBack back nonzero
  rw [ofDecimal_eq_ofUnits _ some]
  exact ofUnits_eq_finite rounded exact negative

/-- A grid point that is accepted has been read back. -/
theorem readsBack_of_gridPoint? {units digits : Nat} {place : Int}
    (found : gridPoint? units place = some digits) : readsBack units digits place = true := by
  unfold gridPoint? at found
  dsimp only at found
  split at found
  · next below above =>
    obtain rfl := Option.some.inj found
    have bounds := roundHalfEven_bounds (overPlace units place).1 (overPlace units place).2
    rcases Nat.lt_or_eq_of_le bounds.1 with more | same
    · rwa [show roundHalfEven _ _ = _ from Nat.le_antisymm bounds.2 more]
    · rwa [← same]
  · next below _ =>
    obtain rfl := Option.some.inj found
    exact below
  · next _ above =>
    obtain rfl := Option.some.inj found
    exact above
  · cases found

/-- The exact expansion of a double reads back. -/
theorem ofDecimal_expansion (negative : Bool) {units : Nat} (nonzero : units ≠ 0)
    (exact : Exact units) :
    ofDecimal negative (expansion units).1 (expansion units).2 = .finite negative units exact := by
  have some : (expansion units).1 ≠ 0 :=
    Nat.mul_ne_zero (Nat.pow_pos (n := 1074) (by decide)).ne' nonzero
  rw [ofDecimal_eq_ofUnits _ some]
  refine ofUnits_eq_finite ?_ exact negative
  have ten (n : Nat) : twoTo n * (Nat.pow 5 n * units) = units * 10 ^ n := by
    simp only [twoTo, Nat.pow_eq, ← Nat.mul_assoc, ← Nat.mul_pow]
    exact Nat.mul_comm _ _
  have worth : quotientOf (expansion units).1 (expansion units).2 =
      (twoTo 1074 * (Nat.pow 5 1074 * units * 10 ^ 0), 10 ^ 1074) := rfl
  rw [worth, pow_zero, Nat.mul_one, ten]
  exact nearest_of_exact (Nat.pow_pos (by decide)) exact

theorem ofDecimal_accepted (negative : Bool) {units : Nat} (nonzero : units ≠ 0)
    (exact : Exact units) :
    ofDecimal negative (accepted units).1 (accepted units).2 = .finite negative units exact := by
  unfold accepted
  extract_lets top
  cases tried : (List.range 17).findSome? fun (k : Nat) =>
      (gridPoint? units (top - k)).map fun digits => (digits, top - k) with
  | none =>
    rw [Option.getD_none]
    exact ofDecimal_expansion negative nonzero exact
  | some pair =>
    rw [Option.getD_some]
    obtain ⟨k, _, hk⟩ := List.exists_of_findSome?_eq_some tried
    obtain ⟨point, found, rfl⟩ := Option.map_eq_some_iff.1 hk
    exact ofDecimal_of_readsBack (readsBack_of_gridPoint? found) nonzero exact negative

theorem stripZeros_spec (n : Nat) : (stripZeros n).1 * 10 ^ (stripZeros n).2 = n := by
  fun_induction stripZeros n with
  | case1 n h core count found ih =>
    simp only [found] at ih
    rw [pow_succ, ← Nat.mul_assoc, ih]
    omega
  | case2 n h => simp

theorem ofDecimal_stripZeros (negative : Bool) {found stripped : Nat × Int}
    (same : stripped = ((stripZeros found.1).1, found.2 + (stripZeros found.1).2)) :
    ofDecimal negative stripped.1 stripped.2 = ofDecimal negative found.1 found.2 := by
  have moved := ofDecimal_mul_pow negative (stripZeros found.1).1 (stripZeros found.1).2
    (found.2 + (stripZeros found.1).2)
  rw [stripZeros_spec, add_sub_cancel_right] at moved
  rw [same]
  exact moved.symm

/-- **A double reads back from its shortest decimal.** -/
theorem ofDecimal_shortest (negative : Bool) {units : Nat} (nonzero : units ≠ 0)
    (exact : Exact units) :
    ofDecimal negative (shortest units).1 (shortest units).2 = .finite negative units exact :=
  (ofDecimal_stripZeros negative rfl).trans (ofDecimal_accepted negative nonzero exact)

end Double
end Eligibility
