/-
# What groups and criteria report fits their results

A group counts and scores the results that it lists, so its counts are in order, its score is a
percentage, and both are nothing where no result counts.  A group whose combination has a fault does
not pass (`Group.consistent_of_evaluate`).

The score by sum adds up the weights of the results that passed.  It never looks at what the results
contribute, but it is the sum of that, over all results and to the last bit
(`Criteria.score_eq_contributions`): what a result contributes is its weight if it passed and zero
otherwise, and adding a zero changes no sum that starts at zero.
-/

import Eligibility.Proofs.Combination
import Eligibility.Proofs.Criteria.Returning
import Eligibility.Proofs.Rule.Consistent
import Eligibility.Proofs.Score.Range

namespace Eligibility

open Double (zero)

/-! ### Groups -/

/-- A group result whose parts fit together. -/
structure GroupResult.Consistent (g : GroupResult) : Prop where
  results : ∀ r ∈ g.results, r.Consistent
  counts : 0 ≤ g.passedCount ∧ g.passedCount ≤ g.effectiveCount ∧
    g.effectiveCount ≤ g.results.length
  score : zero.le g.score ∧ g.score.le .hundred
  uncounted : g.effectiveCount = 0 → g.passedCount = 0 ∧ g.score = zero
  faulty : g.error ≠ none → g.passed = false

/-- **What a group comes to is consistent**, however its rules and itself are set up. -/
theorem Group.consistent_of_evaluate {group : Group} {subject : Value} {g : GroupResult}
    (came : (group.evaluate subject).result = .ok g) : g.Consistent := by
  obtain ⟨answers, reports⟩ := Group.reports_of_evaluate came
  have passedFew : passedCount g.results ≤ (effective g.results).length := List.countP_le_length
  have countedFew : (effective g.results).length ≤ g.results.length := List.length_filter_le ..
  have passed := reports.passedCount
  have counted := reports.effectiveCount
  refine {
    results := answers.consistent
    counts := by omega
    score := reports.score ▸ Score.average_bounds g.results
    uncounted := fun none => ⟨by omega, ?_⟩
    faulty := fun fault => ?_ }
  · have empty : (effective g.results).length = 0 := by omega
    rw [reports.score, Score.average, Score.share, if_pos empty]
  · rw [reports.passed]
    exact Combination.not_passed_of_error? (reports.error ▸ fault)

/-- Rules of every kind: one that passes, one that does not, one without a proper weight, one
without an operator, one that cannot be tried and one that is skipped. -/
def motley : List Rule := [
  { ruleId := .text "age", field := "age", operator := .text ">=", expected := .int 18,
    weight := .text "0.1" },
  { ruleId := .text "senior", field := "age", operator := .text "gte", expected := .int 65,
    weight := .int 5 },
  { ruleId := .text "debt", field := "debt", operator := .text "<", weight := .int (-1) },
  { ruleId := .text "name", field := "name", operator := .text "~" },
  { ruleId := .text "work", field := "work", operator := .text "exists",
    dependencies := [{ field := "age", operator := .text "~" }] },
  { ruleId := .text "rent", field := "rent", operator := .text "exists", weight := .int 3,
    dependencies := [{ field := "lease", operator := .text "exists" }] },
  { ruleId := .text "adult", field := "age", operator := .text "<=", expected := .int 65,
    weight := .text "0.2" }]

/-- Someone of twenty. -/
def youth : Value := .map [(.text "age", .int 20)]

/-- The requirement can be met, with all of these rules in one group.  It asks for no proper number
of them, so it does not pass. -/
theorem Group.consistent_of_evaluate_motley :
    let group : Group := {
      groupId := .text "motley", combination := .text "min", minimum := .bool true,
      rules := motley }
    ∃ g, (group.evaluate youth).result = .ok g ∧ g.Consistent ∧
      g.results.map (fun r => (r.passed, r.skipped, r.error.isSome)) =
        [(true, false, false), (false, false, false), (false, false, true), (false, false, true),
          (false, false, true), (false, true, false), (true, false, false)] ∧
      (g.passedCount, g.effectiveCount) = (2, 6) ∧ g.error.isSome = true := by
  intro group
  have comes : (group.evaluate youth).result.toOption.map (fun g =>
      (g.results.map fun r => (r.passed, r.skipped, r.error.isSome),
        (g.passedCount, g.effectiveCount), g.error.isSome)) =
      some ([(true, false, false), (false, false, false), (false, false, true),
          (false, false, true), (false, false, true), (false, true, false),
          (true, false, false)], (2, 6), true) := by
    decide +kernel
  obtain ⟨g, came, parts⟩ := exists_ok_of_toOption comes
  obtain ⟨results, rest⟩ := Prod.mk.inj parts
  obtain ⟨counts, faulty⟩ := Prod.mk.inj rest
  exact ⟨g, came, Group.consistent_of_evaluate came, results, counts, faulty⟩

/-! ### Criteria -/

namespace Criteria

/-- **The score by sum is the sum of what the results contribute**, over all results of all groups
and from left to right, those that did not pass or were skipped among them.  A result contributes
its weight if it passed and nothing otherwise. -/
theorem score_eq_contributions {criteria : Criteria} {settings : Settings} {subject : Value}
    {e : Evaluation} (came : (criteria.evaluate settings subject).result = .ok e)
    (summed : (criteria.methodInForce settings).value = .sum) :
    e.score = ((e.groups.flatMap (·.results)).map (·.contribution)).foldl (· + ·) zero ∧
      ∀ r ∈ e.groups.flatMap (·.results), r.contribution = if r.passed then r.weight else zero := by
  have consistent : ∀ r ∈ e.results, r.Consistent := (answers_of_evaluate came).consistent
  have contributions : e.results.map (·.contribution) = e.results.map (·.earned) :=
    List.map_congr_left fun r member => (consistent r member).contribution_eq_earned
  refine ⟨?_, fun r member => (consistent r member).contribution_eq⟩
  calc e.score
      = Score.sum e.results := by rw [score_of_evaluate came, summed, ScoringMethod.score]
    _ = Score.total (e.results.map (·.earned)) := Score.total_passed e.results
    _ = Score.total (e.results.map (·.contribution)) := by rw [contributions]

/-- The requirements can be met: in two groups a tenth and two tenths pass, and the sum is
rounded. -/
theorem score_eq_contributions_motley :
    let criteria : Criteria := {
      criteriaId := .text "motley", method := .text " SUM "
      groups := [{ groupId := .text "first", rules := motley.take 3 },
        { groupId := .text "second", combination := .text "or", rules := motley.drop 3 }] }
    (criteria.methodInForce {}).value = .sum ∧
    ∃ e, (criteria.evaluate {} youth).result = .ok e ∧
      e.score = ((e.groups.flatMap (·.results)).map (·.contribution)).foldl (· + ·) zero ∧
      (e.groups.flatMap (·.results)).map (·.contribution) =
        [.ofDecimal false 1 (-1), zero, zero, zero, zero, zero, .ofDecimal false 2 (-1)] ∧
      e.score = .ofDecimal false 30000000000000004 (-17) := by
  intro criteria
  have summed : (criteria.methodInForce {}).value = .sum := by decide +kernel
  have comes : (criteria.evaluate {} youth).result.toOption.map (fun e =>
      ((e.groups.flatMap (·.results)).map (·.contribution), e.score)) =
      some ([.ofDecimal false 1 (-1), zero, zero, zero, zero, zero, .ofDecimal false 2 (-1)],
        .ofDecimal false 30000000000000004 (-17)) := by
    decide +kernel
  obtain ⟨e, came, parts⟩ := exists_ok_of_toOption comes
  obtain ⟨contributions, score⟩ := Prod.mk.inj parts
  exact ⟨summed, e, came, (score_eq_contributions came summed).1, contributions, score⟩

end Criteria
end Eligibility
