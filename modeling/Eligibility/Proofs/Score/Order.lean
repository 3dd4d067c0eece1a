/-
# Scores grow with what passes

A number that is left out of a sum counts as zero (`Score.total_filterMap`), so the two sums of the
weighted score run over the same results: what each has weighed, and what each has earned.  Sums of
numbers that are not negative keep order, and so do percentages.  Where results pass that did not,
and nothing else changes, no score falls (`ScoringMethod.score_le`) and no passing turns into
failing (`ScoringMethod.passes_of_le`).

The weights that count must have a finite sum: otherwise the weighted score may be the quotient of
two infinities, which has no place in the order.
-/

import Eligibility.Proofs.Double.Order
import Eligibility.Score
import Mathlib.Data.List.Forall2

namespace Eligibility

open Double (zero)

namespace Score

/-! ### Sums -/

theorem foldl_add_filterMap {α : Type} (f : α → Option Double) (xs : List α) {sum : Double}
    (start : sum ≠ Double.negativeZero) :
    (xs.filterMap f).foldl (· + ·) sum = (xs.map fun x => (f x).getD zero).foldl (· + ·) sum := by
  induction xs generalizing sum with
  | nil => rfl
  | cons x rest ih =>
    cases found : f x with
    | none =>
      rw [List.filterMap_cons_none found, List.map_cons, found, List.foldl_cons, Option.getD_none,
        Double.add_zero start]
      exact ih start
    | some w =>
      rw [List.filterMap_cons_some found, List.map_cons, found, List.foldl_cons, List.foldl_cons]
      exact ih (Double.add_ne_negative_zero start w)

/-- **What is left out of a sum counts as zero.** -/
theorem total_filterMap {α : Type} (f : α → Option Double) (xs : List α) :
    total (xs.filterMap f) = total (xs.map fun x => (f x).getD zero) :=
  foldl_add_filterMap f xs (by decide)

theorem map_filter_eq_filterMap {α β : Type} (p : α → Bool) (f : α → β) (xs : List α) :
    (xs.filter p).map f = xs.filterMap fun x => if p x then some (f x) else none := by
  rw [← List.filterMap_eq_map, ← List.filterMap_eq_filter, List.filterMap_filterMap]
  congr 1
  funext x
  by_cases kept : p x <;> simp [Option.guard, kept]

/-- Two numbers in order, the smaller one not negative. -/
def Ordered (x y : Double) : Prop := zero.le x ∧ x.le y

theorem foldl_add_le {xs ys : List Double} (each : List.Forall₂ Ordered xs ys) {s t : Double}
    (start : Ordered s t) : Ordered (xs.foldl (· + ·) s) (ys.foldl (· + ·) t) := by
  induction each generalizing s t with
  | nil => exact start
  | cons first _ ih =>
    refine ih ⟨Double.add_nonneg start.1 first.1, ?_⟩
    exact Double.add_le_add start.1 start.2 first.1 first.2

/-- **Sums keep order.** -/
theorem total_le {xs ys : List Double} (each : List.Forall₂ Ordered xs ys) :
    Ordered (total xs) (total ys) :=
  foldl_add_le each ⟨Double.zero_le_zero, Double.zero_le_zero⟩

theorem total_nonneg {xs : List Double} (each : ∀ x ∈ xs, zero.le x) : zero.le (total xs) :=
  (total_le (List.forall₂_same.2 fun x member =>
    ⟨each x member, Double.le_refl_of_nonneg (each x member)⟩)).1

/-! ### Percentages -/

theorem percent_le {x y : Double} (ordered : Ordered x y) : Ordered (percent x) (percent y) := by
  obtain ⟨finite, n, worth, nonzero⟩ := Double.hundred_worth
  have times := Double.keeping_mul worth finite nonzero
  have places := Double.keeping_roundPlaces 2
  exact ⟨places.nonneg (times.nonneg ordered.1),
    places.le (times.nonneg ordered.1) (times.le ordered.1 ordered.2)⟩

theorem percentage_le {x y whole : Double} (ordered : Ordered x y) (nonneg : zero.le whole)
    (finite : whole.isFinite) (some : whole.le zero = false) :
    Ordered (percentage x whole) (percentage y whole) := by
  obtain ⟨n, worth⟩ := Double.nonneg_iff.1 nonneg
  have nonzero : n ≠ 0 := by
    rintro rfl
    rw [Double.le, worth] at some
    cases some
  have division := Double.keeping_div worth finite nonzero
  exact percent_le ⟨division.nonneg ordered.1, division.le ordered.1 ordered.2⟩

theorem share_le {passed passed' : Nat} (le : passed ≤ passed') (counted : Nat) :
    Ordered (share passed counted) (share passed' counted) := by
  unfold share
  split
  · exact ⟨Double.zero_le_zero, Double.zero_le_zero⟩
  · exact percent_le ⟨Double.ratio_nonneg .., Double.ratio_le_ratio le counted⟩

end Score

/-! ### Results -/

namespace RuleResult

/-- What a result adds to the weight that counts. -/
def weighed (r : RuleResult) : Double := if r.isEffective then r.weight else zero

theorem weighed_nonneg {r : RuleResult} (nonneg : zero.le r.weight) : zero.le r.weighed := by
  unfold weighed
  split
  · exact nonneg
  · exact Double.zero_le_zero

/-- What a result adds to the weight that passed. -/
def earned (r : RuleResult) : Double := if r.isEffective && r.passed then r.weight else zero

/-- The second result differs from the first at most in what was expected and in that it did not
pass. -/
structure FallsTo (r r' : RuleResult) : Prop where
  same : r' = { r with
    expected := r'.expected, passed := r'.passed, contribution := r'.contribution }
  passed : r'.passed = true → r.passed = true

namespace FallsTo

variable {r r' : RuleResult}

theorem rfl (r : RuleResult) : FallsTo r r := ⟨Eq.refl r, id⟩

theorem weight (falls : FallsTo r r') : r'.weight = r.weight := by rw [falls.same]

theorem isEffective (falls : FallsTo r r') : r'.isEffective = r.isEffective := by
  rw [falls.same]
  exact Eq.refl _

end FallsTo
end RuleResult

namespace Score

variable {results lower : List RuleResult}

theorem total_effective (results : List RuleResult) :
    total ((effective results).map (·.weight)) = total (results.map (·.weighed)) := by
  rw [effective, map_filter_eq_filterMap, total_filterMap]
  congr 2
  funext r
  unfold RuleResult.weighed
  split <;> rfl

theorem total_passed (results : List RuleResult) :
    total (((effective results).filter (·.passed)).map (·.weight)) =
      total (results.map (·.earned)) := by
  rw [effective, List.filter_filter, map_filter_eq_filterMap, total_filterMap]
  congr 2
  funext r
  unfold RuleResult.earned
  rw [Bool.and_comm]
  split <;> rfl

section Falling

variable (falls : List.Forall₂ RuleResult.FallsTo results lower)

include falls

theorem effective_falls : List.Forall₂ RuleResult.FallsTo (effective results) (effective lower) := by
  induction falls with
  | nil => exact .nil
  | @cons r r' _ _ first _ ih =>
    unfold effective at ih ⊢
    rw [List.filter_cons, List.filter_cons, first.isEffective]
    split
    · exact .cons first ih
    · exact ih

/-- The weights that count are the same. -/
theorem weighed_falls : lower.map (·.weighed) = results.map (·.weighed) := by
  induction falls with
  | nil => rfl
  | cons first _ ih =>
    rw [List.map_cons, List.map_cons, ih, RuleResult.weighed, RuleResult.weighed, first.weight,
      first.isEffective]

/-- What is earned does not grow. -/
theorem total_earned_le (weights : ∀ r ∈ results, zero.le r.weight) :
    Ordered (total (lower.map (·.earned))) (total (results.map (·.earned))) := by
  refine total_le ?_
  induction falls with
  | nil => exact .nil
  | @cons r r' _ _ first _ ih =>
    rw [List.map_cons, List.map_cons]
    refine .cons ?_ (ih fun r member => weights r (List.mem_cons_of_mem _ member))
    have nonneg : zero.le r.weight := weights r List.mem_cons_self
    unfold RuleResult.earned
    by_cases now : (r'.isEffective && r'.passed) = true
    · have before : (r.isEffective && r.passed) = true := by
        rw [first.isEffective, Bool.and_eq_true] at now
        exact Bool.and_eq_true_iff.2 ⟨now.1, first.passed now.2⟩
      rw [if_pos now, if_pos before, first.weight]
      exact ⟨nonneg, Double.le_refl_of_nonneg nonneg⟩
    · rw [if_neg now]
      refine ⟨Double.zero_le_zero, ?_⟩
      split
      · exact nonneg
      · exact Double.zero_le_zero

theorem passedCount_le : passedCount lower ≤ passedCount results := by
  have counted := effective_falls falls
  unfold passedCount
  generalize effective results = before, effective lower = after at counted ⊢
  induction counted with
  | nil => exact le_rfl
  | @cons r r' _ _ first _ ih =>
    rw [List.countP_cons, List.countP_cons]
    have less : (if r'.passed then 1 else 0) ≤ if r.passed then 1 else 0 := by
      split
      · next now => rw [if_pos (first.passed now)]
      · exact Nat.zero_le _
    omega

theorem all_passed (all : (effective lower).all (·.passed) = true) :
    (effective results).all (·.passed) = true := by
  have counted := effective_falls falls
  generalize effective results = before, effective lower = after at counted all ⊢
  induction counted with
  | nil => rfl
  | cons first _ ih =>
    rw [List.all_cons, Bool.and_eq_true] at all ⊢
    exact ⟨first.passed all.1, ih all.2⟩

end Falling

/-- All or nothing. -/
theorem passFail_cases (results : List RuleResult) :
    passFail results = .hundred ∨ passFail results = zero := by
  unfold passFail
  dsimp only
  split
  · exact .inr rfl
  · split
    · exact .inl rfl
    · exact .inr rfl

theorem zero_le_hundred : zero.le .hundred := by decide +kernel

end Score

namespace ScoringMethod

variable {results lower : List RuleResult}

/-- **No score rises when results fall.** -/
theorem score_le (method : ScoringMethod) (falls : List.Forall₂ RuleResult.FallsTo results lower)
    (weights : ∀ r ∈ results, zero.le r.weight)
    (finite : (Score.total (results.map (·.weighed))).isFinite) :
    (method.score lower).le (method.score results) := by
  have earned := Score.total_earned_le falls weights
  cases method with
  | weighted =>
    simp only [score, Score.weighted, Score.total_effective, Score.total_passed,
      Score.weighed_falls falls]
    have nonneg : zero.le (Score.total (results.map (·.weighed))) := by
      refine Score.total_nonneg fun w member => ?_
      obtain ⟨r, inside, rfl⟩ := List.mem_map.1 member
      exact RuleResult.weighed_nonneg (weights r inside)
    split
    · exact Double.zero_le_zero
    · next some =>
      exact (Score.percentage_le earned nonneg finite (Bool.eq_false_iff.2 some)).2
  | passFail =>
    have same : (effective lower).isEmpty = (effective results).isEmpty := by
      rw [Bool.eq_iff_iff, List.isEmpty_iff_length_eq_zero, List.isEmpty_iff_length_eq_zero,
        (Score.effective_falls falls).length_eq]
    simp only [score, Score.passFail, same]
    split
    · exact Double.zero_le_zero
    · split
      · next all =>
        rw [if_pos (Score.all_passed falls all)]
        exact Double.le_refl_of_nonneg Score.zero_le_hundred
      · split
        · exact Score.zero_le_hundred
        · exact Double.zero_le_zero
  | sum =>
    simp only [score, Score.sum, Score.total_passed]
    exact earned.2
  | average =>
    have same : (effective lower).length = (effective results).length :=
      (Score.effective_falls falls).length_eq.symm
    simp only [score, Score.average, same]
    exact (Score.share_le (Score.passedCount_le falls) _).2

/-- **A score that passes does so as well when it is higher.** -/
theorem passes_of_le {method : ScoringMethod} {lower threshold : Double}
    (le : lower.le (method.score results)) (passes : method.passes lower threshold) :
    method.passes (method.score results) threshold := by
  cases method with
  | passFail =>
    -- A score that is at least a hundred is the full one.
    have reached : Double.hundred.le (Score.passFail results) :=
      Double.le_trans (Double.le_of_eq passes) le
    show (Score.passFail results).eq .hundred
    rcases Score.passFail_cases results with full | none
    · rw [full]
      decide +kernel
    · rw [none] at reached
      exact absurd reached (by decide +kernel)
  | weighted => exact Double.le_trans passes le
  | sum => exact Double.le_trans passes le
  | average => exact Double.le_trans passes le

end ScoringMethod
end Eligibility
