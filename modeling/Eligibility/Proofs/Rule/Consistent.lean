/-
# Results do not contradict themselves

A result is built in one of three ways, and its parts fit together in each of them
(`RuleResult.Consistent`):

| result | passed | skipped | contribution | error | reason |
| --- | --- | --- | --- | --- | --- |
| compared, passed | yes | no | the weight | none | none |
| compared, not passed | no | no | nothing | none | none |
| skipped | no | yes | nothing | none | given |
| failed | no | no | nothing | given | none |

The weight is always a finite number that is not negative.  What a result contributes is what a
score counts of it (`RuleResult.Consistent.contribution_eq_earned`).
-/

import Eligibility.Proofs.Rule.Weight
import Eligibility.Proofs.Score.Unrounded

namespace Eligibility

open Double (zero)

theorem Double.isWeight_zero : zero.IsWeight := ⟨zero_le_zero, rfl⟩

/-- A result whose parts fit together. -/
structure RuleResult.Consistent (r : RuleResult) : Prop where
  weight : r.weight.IsWeight
  passed : r.passed = true → r.skipped = false ∧ r.error = none ∧ r.contribution = r.weight
  notPassed : r.passed = false → r.contribution = zero
  skipped : r.skipped = true →
    r.error = none ∧ r.reason = some "Dependency not met" ∧ r.actual = .null
  failed : r.error ≠ none → r.passed = false ∧ r.skipped = false

namespace RuleResult.Consistent

variable {r : RuleResult}

theorem contribution_eq (consistent : r.Consistent) :
    r.contribution = if r.passed then r.weight else zero := by
  cases passed : r.passed with
  | false => exact consistent.notPassed passed
  | true => exact (consistent.passed passed).2.2

/-- A result contributes what it adds to the weight that passed. -/
theorem contribution_eq_earned (consistent : r.Consistent) : r.contribution = r.earned := by
  rw [consistent.contribution_eq, earned, isEffective]
  cases passed : r.passed with
  | false => rw [Bool.and_false]
  | true => simp only [(consistent.passed passed).1, Bool.not_false, Bool.and_true]

end RuleResult.Consistent

namespace Rule

variable {rule : Rule} {subject : Value} {r : RuleResult}

theorem isWeight_of_weight? {weight : Double} (weighs : rule.weight? = .ok (.ok weight)) :
    weight.IsWeight :=
  ⟨nonneg_of_weight? weighs, isFinite_of_weight? weighs⟩

theorem consistent_of_failed {actual : Value} {error : String}
    (came : rule.failed actual error = .ok r) : r.Consistent := by
  obtain ⟨ruleId, -, rfl⟩ := named_eq_ok.1 came
  exact {
    weight := Double.isWeight_zero
    passed := nofun
    notPassed := fun _ => rfl
    skipped := nofun
    failed := fun _ => ⟨rfl, rfl⟩ }

theorem consistent_of_skip {weight : Except WeightFault Double} (weighs : rule.weight? = .ok weight)
    (came : rule.skip = .ok r) : r.Consistent := by
  have isWeight : (weight.toOption.getD zero).IsWeight := by
    cases weight with
    | error fault => exact Double.isWeight_zero
    | ok weight => exact isWeight_of_weight? weighs
  rw [skip, weighs] at came
  obtain ⟨ruleId, -, rfl⟩ :=
    named_eq_ok.1 (show (requireText "rule_id" rule.ruleId >>= _) = .ok r from came)
  exact {
    weight := isWeight
    passed := fun passes => absurd passes Bool.false_ne_true
    notPassed := fun _ => rfl
    skipped := fun _ => ⟨rfl, rfl, rfl⟩
    failed := fun error => absurd rfl error }

theorem consistent_of_compared {operator : Operator} {weight : Double} {actual : Value}
    {passed : Bool} (weighs : rule.weight? = .ok (.ok weight))
    (came : rule.compared operator weight actual passed = .ok r) : r.Consistent := by
  obtain ⟨ruleId, -, rfl⟩ := named_eq_ok.1 came
  exact {
    weight := isWeight_of_weight? weighs
    passed := fun passes => ⟨rfl, rfl, if_pos passes⟩
    notPassed := fun fails => if_neg (Bool.eq_false_iff.1 fails)
    skipped := nofun
    failed := fun error => absurd rfl error }

/-- **However a rule comes out, its result is consistent.** -/
theorem consistent_of_outcome (came : rule.outcome subject = .ok r) : r.Consistent := by
  cases built_of_outcome came with
  | failed came => exact consistent_of_failed came
  | skipped weighs came => exact consistent_of_skip weighs came
  | compared weighs came => exact consistent_of_compared weighs came

end Rule

theorem Answers.consistent {subject : Value} {rules : List Rule} {results : List RuleResult}
    (answers : Answers subject rules results) : ∀ r ∈ results, r.Consistent :=
  forall_of_forall₂ answers.outcomes.flip fun _ _ came => Rule.consistent_of_outcome came

end Eligibility
