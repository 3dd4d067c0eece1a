/-
# Which results can be read back

What the engine makes of a criteria and a subject has a stored text that can be read back, unless
its score is no finite number or its values are nested too deeply
(`Criteria.readsBack_of_evaluate`).  Nothing else that it holds can stand in the way: the weight of
a rule is finite, and the score of a group is a percentage.

The score is finite as long as the weights that count have a finite sum
(`Criteria.isFinite_score`).
-/

import Eligibility.Proofs.Criteria.Trace
import Eligibility.Proofs.Record.RoundTrip
import Eligibility.Proofs.Rule.Consistent
import Eligibility.Proofs.Score.Range

namespace Eligibility

open Double (zero)

theorem Score.isFinite_hundred : Double.hundred.isFinite = true := Double.hundred_worth.1

/-- A score is finite when the weights that count have a finite sum, and always when rules are only
counted. -/
theorem ScoringMethod.isFinite_score {method : ScoringMethod} {results : List RuleResult}
    (weights : ∀ r ∈ results, zero.le r.weight)
    (finite : method = weighted ∨ method = sum →
      (Score.total (results.map (·.weighed))).isFinite) : (method.score results).isFinite := by
  cases method with
  | weighted =>
    rw [← Score.total_effective] at finite
    have bounds := Score.weighted_bounds weights (finite (.inl rfl))
    exact Double.isFinite_of_le bounds.1 bounds.2 Score.isFinite_hundred
  | passFail =>
    have bounds := Score.passFail_bounds results
    exact Double.isFinite_of_le bounds.1 bounds.2 Score.isFinite_hundred
  | sum =>
    have ordered := Score.earned_le_weighed weights
    simp only [score, Score.sum, Score.total_passed]
    exact Double.isFinite_of_le ordered.1 ordered.2 (finite (.inr rfl))
  | average =>
    have bounds := Score.average_bounds results
    exact Double.isFinite_of_le bounds.1 bounds.2 Score.isFinite_hundred

/-! ### Rules and groups -/

/-- A consistent result can be read back. -/
theorem RuleResult.Consistent.isReadable {r : RuleResult} (consistent : r.Consistent) :
    r.isReadable = true := by
  have contribution : r.contribution.isFinite = true := by
    rw [consistent.contribution_eq]
    split
    · exact consistent.weight.2
    · rfl
  rw [RuleResult.isReadable, contribution, consistent.weight.2]
  rfl

theorem Answers.isReadable {subject : Value} {rules : List Rule} {results : List RuleResult}
    (answers : Answers subject rules results) : ∀ r ∈ results, r.isReadable = true :=
  fun r member => (answers.consistent r member).isReadable

theorem Group.isReadable_of_evaluate {group : Group} {subject : Value} {g : GroupResult}
    (came : (group.evaluate subject).result = .ok g) : g.isReadable = true := by
  obtain ⟨answers, reports⟩ := Group.reports_of_evaluate came
  have bounds : Score.Ordered g.score .hundred := reports.score ▸ Score.average_bounds g.results
  rw [GroupResult.isReadable, bounds.1, bounds.2, List.all_eq_true.2 answers.isReadable,
    Double.isFinite_of_le bounds.1 bounds.2 Score.isFinite_hundred]
  rfl

/-! ### Evaluations -/

/-- Whether the values that an evaluation tells are nested no deeper than a reader goes. -/
def Evaluation.isShallow (e : Evaluation) : Bool :=
  e.tree?.any fun tree => tree.depth ≤ Json.nestingLimit

namespace Criteria

variable {criteria : Criteria} {settings : Settings} {subject : Value} {e : Evaluation}

/-- **What the engine makes of a subject can be read back** when its score is finite and its values
are not nested too deeply. -/
theorem readsBack_of_evaluate (came : (criteria.evaluate settings subject).result = .ok e) :
    e.readsBack = (e.score.isFinite && e.isShallow) := by
  have results := (answers_of_evaluate came).isReadable
  have failures : e.failures.all (·.isReadable) = true := by
    rw [failures_of_evaluate came, List.all_eq_true]
    exact fun r member => results r (List.mem_of_mem_filter member)
  have groups : e.groups.all (·.isReadable) = true := by
    obtain ⟨inForce, -, answers⟩ := groupAnswers_of_evaluate came
    exact List.all_eq_true.2
      (forall_of_forall₂ answers.flip fun _ _ came => Group.isReadable_of_evaluate came)
  rw [Evaluation.readsBack, Evaluation.isReadable, failures, groups, Bool.and_true, Bool.and_true]
  rfl

/-- **The score is finite** when the weights that count have a finite sum, and always when rules are
only counted. -/
theorem isFinite_score (came : (criteria.evaluate settings subject).result = .ok e)
    (finite : (criteria.methodInForce settings).value = .weighted ∨
        (criteria.methodInForce settings).value = .sum →
      (Score.total (e.results.map (·.weighed))).isFinite) : e.score.isFinite = true := by
  rw [score_of_evaluate came]
  refine ScoringMethod.isFinite_score ?_ finite
  exact forall_of_forall₂ (answers_of_evaluate came).outcomes.flip fun _ _ came =>
    (Rule.counts_of_outcome came).nonneg

end Criteria
end Eligibility
