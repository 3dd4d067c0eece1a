/-
# Sums that no addition rounds

A sum of doubles is added up from left to right and rounded at every step, so it may depend on the
order of its numbers.  It does not where no step rounds: then it is the true sum, which has no order
(`Score.total_of_unrounded`, `Score.total_perm`).  Weights that are multiples of one power of two and
do not come to more than `2 ^ 53` of it are of this kind, in any order (`Score.unrounded_of_grid`).

The scores that count rules do not add weights up, and do not depend on the order at all
(`ScoringMethod.score_perm`).
-/

import Eligibility.Proofs.Score.Order
import Mathlib.Algebra.BigOperators.Ring.List

namespace Eligibility

namespace Double

/-- The units of a finite number. -/
def units : Double → Nat
  | .finite _ units _ => units
  | _ => 0

/-- A number that is finite and not negative: what a weight is. -/
def IsWeight (x : Double) : Prop := zero.le x ∧ x.isFinite

theorem IsWeight.eq_finite {x : Double} (weight : x.IsWeight) :
    ∃ negative n exact, x = .finite negative n exact ∧ (negative = true → n = 0) := by
  obtain ⟨n, worth⟩ := nonneg_iff.1 weight.1
  rcases rank_cases worth with ⟨negative, exact, same, sign⟩ | ⟨rfl, -⟩
  · exact ⟨negative, n, exact, same, sign⟩
  · exact absurd weight.2 (by decide)

/-- A sum that a double can hold is not rounded. -/
theorem add_of_exact {m : Nat} (held : Exact m) {x : Double} (weight : x.IsWeight)
    (exact : Exact (m + x.units)) : finite false m held + x = finite false (m + x.units) exact := by
  obtain ⟨negative, n, own, rfl, sign⟩ := weight.eq_finite
  have total : signed false m + signed negative n = ((m + n : Nat) : Int) := by
    cases negative <;> simp_all [signed]
  show (if signed false m + signed negative n = 0 then _ else _ : Double) = _
  rw [total]
  split
  · next none =>
    have empty : m + n = 0 := by exact_mod_cast none
    simp only [units, empty, Bool.false_and]
  · have positive : decide (((m + n : Nat) : Int) < 0) = false := decide_eq_false (by omega)
    rw [positive, Int.natAbs_natCast]
    exact ofUnits_of_exact exact false

end Double

namespace Score

/-! ### Sums -/

/-- What weights come to, in units. -/
def unitsOf (weights : List Double) : Nat := (weights.map (·.units)).sum

theorem unitsOf_append (weights others : List Double) :
    unitsOf (weights ++ others) = unitsOf weights + unitsOf others := by
  rw [unitsOf, List.map_append, List.sum_append]
  rfl

theorem unitsOf_perm {weights others : List Double} (perm : weights.Perm others) :
    unitsOf weights = unitsOf others :=
  (perm.map _).sum_eq

/-- No addition rounds: at every step a double can hold the true sum. -/
def Unrounded (weights : List Double) : Prop :=
  ∀ front, front <+: weights → Double.Exact (unitsOf front)

instance (weights : List Double) : Decidable (Unrounded weights) :=
  decidable_of_iff (∀ front ∈ weights.inits, Double.Exact (unitsOf front)) <| by
    simp only [Unrounded, List.mem_inits]

/-- **Without rounding the sum is the true one.** -/
theorem total_of_unrounded {weights : List Double} (each : ∀ w ∈ weights, w.IsWeight)
    (unrounded : Unrounded weights) :
    ∃ exact, total weights = .finite false (unitsOf weights) exact := by
  refine ⟨unrounded weights List.prefix_rfl, ?_⟩
  induction weights using List.reverseRecOn with
  | nil => rfl
  | append_singleton front w ih =>
    have before := ih (fun v member => each v (by simp [member]))
      fun less start => unrounded less (start.trans (List.prefix_append front [w]))
    have exact := unrounded (front ++ [w]) List.prefix_rfl
    simp only [unitsOf_append] at exact ⊢
    rw [total, List.foldl_append, List.foldl_cons, List.foldl_nil, ← total, before]
    exact Double.add_of_exact _ (each w (by simp)) exact

/-- **Where neither order rounds, both come to the same.** -/
theorem total_perm {weights others : List Double} (each : ∀ w ∈ weights, w.IsWeight)
    (perm : weights.Perm others) (unrounded : Unrounded weights) (unrounded' : Unrounded others) :
    total others = total weights := by
  obtain ⟨exact, sum⟩ := total_of_unrounded each unrounded
  obtain ⟨exact', sum'⟩ :=
    total_of_unrounded (fun w member => each w (perm.mem_iff.2 member)) unrounded'
  simp only [sum, sum', unitsOf_perm perm]

/-- **Weights on a grid are added up without rounding**, whatever their order: multiples of a power
of two that do not come to more than `2 ^ 53` of it. -/
theorem unrounded_of_grid {weights : List Double} (exponent : Nat)
    (each : ∀ w ∈ weights, Double.twoTo exponent ∣ w.units)
    (few : unitsOf weights ≤ Double.twoTo 53 * Double.twoTo exponent)
    (small : unitsOf weights < Double.limit) : Unrounded weights := by
  rintro front ⟨rest, rfl⟩
  rw [unitsOf_append] at few small
  obtain ⟨steps, count⟩ : Double.twoTo exponent ∣ unitsOf front := by
    refine List.dvd_sum fun units member => ?_
    obtain ⟨w, inside, rfl⟩ := List.mem_map.1 member
    exact each w (by simp [inside])
  rw [Nat.mul_comm] at count
  refine ⟨?_, by omega⟩
  rw [count]
  refine Double.mod_step_of_le (Nat.le_of_mul_le_mul_right ?_ (Double.twoTo_pos exponent))
  omega

end Score

/-! ### Scores -/

section Reordered

variable {results others : List RuleResult}

theorem effective_perm (perm : results.Perm others) : (effective results).Perm (effective others) :=
  perm.filter _

theorem passedCount_perm (perm : results.Perm others) : passedCount results = passedCount others :=
  (effective_perm perm).countP_eq _

theorem Score.average_perm (perm : results.Perm others) : average results = average others := by
  rw [average, passedCount_perm perm, (effective_perm perm).length_eq, average]

theorem Score.passFail_perm (perm : results.Perm others) : passFail results = passFail others := by
  have same := effective_perm perm
  simp only [passFail, same.isEmpty_eq, same.all_eq]

/-- Whether a method scores results without rounding a sum of weights.  The methods that count
rules add no weights up. -/
def ScoringMethod.Unrounded : ScoringMethod → List RuleResult → Prop
  | weighted, results => Score.Unrounded ((effective results).map (·.weight)) ∧
      Score.Unrounded (((effective results).filter (·.passed)).map (·.weight))
  | sum, results => Score.Unrounded (((effective results).filter (·.passed)).map (·.weight))
  | passFail, _ => True
  | average, _ => True

instance (method : ScoringMethod) (results : List RuleResult) :
    Decidable (method.Unrounded results) :=
  match method with
  | .weighted => inferInstanceAs (Decidable (_ ∧ _))
  | .sum => inferInstanceAs (Decidable (Score.Unrounded _))
  | .passFail | .average => inferInstanceAs (Decidable True)

/-- **The score does not depend on the order of the results**, except through the rounding of sums
of weights. -/
theorem ScoringMethod.score_perm {method : ScoringMethod} (perm : results.Perm others)
    (weights : ∀ r ∈ effective results, r.weight.IsWeight) (unrounded : method.Unrounded results)
    (unrounded' : method.Unrounded others) : method.score others = method.score results := by
  have counted := effective_perm perm
  have passed := counted.filter (·.passed)
  have each : ∀ w ∈ (effective results).map (·.weight), w.IsWeight := fun w member => by
    obtain ⟨r, inside, rfl⟩ := List.mem_map.1 member
    exact weights r inside
  have eachPassed : ∀ w ∈ ((effective results).filter (·.passed)).map (·.weight), w.IsWeight :=
    fun w member => by
      obtain ⟨r, inside, rfl⟩ := List.mem_map.1 member
      exact weights r (List.mem_of_mem_filter inside)
  cases method with
  | weighted =>
    simp only [score, Score.weighted,
      Score.total_perm each (counted.map _) unrounded.1 unrounded'.1,
      Score.total_perm eachPassed (passed.map _) unrounded.2 unrounded'.2]
  | sum =>
    simp only [score, Score.sum, Score.total_perm eachPassed (passed.map _) unrounded unrounded']
  | passFail => exact (Score.passFail_perm perm).symm
  | average => exact (Score.average_perm perm).symm

end Reordered
end Eligibility
