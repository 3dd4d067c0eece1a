/-
# The trace of an evaluation

An evaluation tells how it came about: every active rule in force has one result in it, in the
order of the rules, whatever groups the rules stand in or clusters they fall into
(`Criteria.trace_of_evaluate`).  A result says which rule it is of (`Rule.Traced`).

What else an evaluation lists or counts of its rules is drawn from these results: the failures are
the results that are neither passed nor skipped, and a group counts the results of its own.
-/

import Eligibility.Proofs.Criteria.Returning

namespace Eligibility

/-! ### Rules -/

namespace Rule

variable {rule : Rule} {subject : Value} {r : RuleResult}

/-- A result says which rule it is of and what was expected, and it has not passed when the rule
was skipped. -/
structure Labels (rule : Rule) (r : RuleResult) : Prop where
  ruleId : rule.ruleId = .text r.ruleId
  field : r.field = rule.field
  expected : r.expected = rule.expected
  kept : r.passed = true → r.skipped = false

theorem labels_of_failed {actual : Value} {error : String}
    (came : rule.failed actual error = .ok r) : rule.Labels r := by
  obtain ⟨ruleId, named, rfl⟩ := named_eq_ok.1 came
  exact ⟨named, rfl, rfl, nofun⟩

theorem labels_of_skip (came : rule.skip = .ok r) : rule.Labels r := by
  obtain ⟨weight, -, rest⟩ := bind_eq_ok.1 came
  obtain ⟨ruleId, named, rfl⟩ := named_eq_ok.1 rest
  exact ⟨named, rfl, rfl, nofun⟩

theorem labels_of_compared {operator : Operator} {weight : Double} {actual : Value} {passed : Bool}
    (came : rule.compared operator weight actual passed = .ok r) : rule.Labels r := by
  obtain ⟨ruleId, named, rfl⟩ := named_eq_ok.1 came
  exact ⟨named, rfl, rfl, fun _ => rfl⟩

/-- **However a rule comes out, the result says which rule it is of.** -/
theorem labels_of_outcome (came : rule.outcome subject = .ok r) : rule.Labels r := by
  cases built_of_outcome came with
  | failed came => exact labels_of_failed came
  | skipped _ came => exact labels_of_skip came
  | compared _ came => exact labels_of_compared came

/-- The result is what the rule itself comes to, and says so. -/
structure Traced (subject : Value) (rule : Rule) (r : RuleResult) : Prop where
  own : (rule.checkClosed subject).result = .ok r
  labels : rule.Labels r

end Rule

namespace Answers

variable {subject : Value} {rules : List Rule} {results : List RuleResult}

theorem traced (answers : Answers subject rules results) :
    List.Forall₂ (Rule.Traced subject) rules results :=
  answers.imp fun _ _ came =>
    ⟨came, Rule.labels_of_outcome (Rule.result_checkClosed.symm.trans came)⟩

/-- Of the results of rules none is both passed and skipped. -/
theorem kept (answers : Answers subject rules results) :
    ∀ r ∈ results, r.passed = true → r.skipped = false :=
  forall_of_forall₂ answers.traced.flip fun _ _ traced => traced.labels.kept

end Answers

/-! ### Groups -/

/-- The number of effective results that passed is that of the results that passed. -/
theorem passedCount_eq_countP {results : List RuleResult}
    (kept : ∀ r ∈ results, r.passed = true → r.skipped = false) :
    passedCount results = results.countP (·.passed) := by
  rw [passedCount, effective, List.countP_filter]
  refine List.countP_congr fun r member => ?_
  have own := kept r member
  cases passed : r.passed with
  | false => simp
  | true => simp [RuleResult.isEffective, own passed]

/-- What a group counts are its own results. -/
structure GroupResult.Counted (g : GroupResult) : Prop where
  effective : g.effectiveCount = g.results.countP (!·.skipped)
  passed : g.passedCount = g.results.countP (·.passed)

theorem Group.counted_of_evaluate {group : Group} {subject : Value} {g : GroupResult}
    (came : (group.evaluate subject).result = .ok g) : g.Counted := by
  obtain ⟨answers, reports⟩ := Group.reports_of_evaluate came
  constructor
  · rw [reports.effectiveCount, effective, List.countP_eq_length_filter]
    rfl
  · rw [reports.passedCount, passedCount_eq_countP answers.kept]

/-! ### Criteria -/

namespace Criteria

variable {criteria : Criteria} {settings : Settings} {subject : Value} {e : Evaluation}

/-- The failures of an evaluation are drawn from its results. -/
theorem failures_of_evaluate (came : (criteria.evaluate settings subject).result = .ok e) :
    e.failures = e.results.filter (·.isFailure) := by
  obtain ⟨groups, -, -, threshold, -, reports⟩ := reports_of_evaluate came
  exact reports.failures

theorem GroupAnswers.counted {groups : List Group} {results : List GroupResult}
    (answers : GroupAnswers subject groups results) : ∀ g ∈ results, g.Counted :=
  forall_of_forall₂ answers.flip fun _ _ came => Group.counted_of_evaluate came

/-- Each group of a criteria has a group result, with the results of its active rules. -/
theorem GroupAnswers.traced {groups : List Group} {results : List GroupResult}
    (answers : GroupAnswers subject groups results) :
    List.Forall₂ (fun group g => List.Forall₂ (Rule.Traced subject) group.activeRules g.results)
      groups results :=
  answers.imp fun _ _ came => (Group.reports_of_evaluate came).1.traced

/-- **The trace of an evaluation is complete.**  There is one result for each active rule, in
order: group by group where the criteria has groups, and otherwise for its rules as they stand,
whatever tags they have.  The failures and the counts of the groups are those of the results. -/
theorem trace_of_evaluate (came : (criteria.evaluate settings subject).result = .ok e) :
    (criteria.groups ≠ [] →
      List.Forall₂ (fun group g => List.Forall₂ (Rule.Traced subject) group.activeRules g.results)
        criteria.groups e.groups ∧
      List.Forall₂ (Rule.Traced subject) (criteria.groups.flatMap (·.activeRules))
        (e.groups.flatMap (·.results))) ∧
    (criteria.groups = [] →
      List.Forall₂ (Rule.Traced subject) (criteria.rules.filter (·.isActive))
        (e.groups.flatMap (·.results))) ∧
    e.failures = (e.groups.flatMap (·.results)).filter (fun r => !r.passed && !r.skipped) ∧
    ∀ g ∈ e.groups, g.Counted := by
  obtain ⟨groups, inForce, answers⟩ := groupAnswers_of_evaluate came
  have whole := (answers_of_evaluate came).traced
  refine ⟨fun some => ?grouped, fun none => ?clustered, failures_of_evaluate came, answers.counted⟩
  case grouped =>
    rcases groupsInForce_eq_ok.1 inForce with ⟨none, -⟩ | ⟨-, rfl⟩
    · exact absurd none some
    · rw [activeRules_eq inForce] at whole
      exact ⟨answers.traced, whole⟩
  case clustered =>
    have rules : criteria.activeRules = criteria.rules.filter (·.isActive) := by
      rw [activeRules, rulesInForce, none]
      rfl
    rwa [rules] at whole

/-- Rules of two tags and of none, of which one is switched off. -/
def banded : Criteria where
  criteriaId := .text "banded"
  rules := [
    { ruleId := .text "age", field := "age", operator := .text ">=", expected := .int 18 },
    { ruleId := .text "card", field := "card", operator := .text "~", tag := .text "or" },
    { ruleId := .text "old", field := "age", operator := .text ">=", active := .bool false },
    { ruleId := .text "age", field := "age", operator := .text "<", expected := .int 65,
      dependencies := [{ field := "card", operator := .text "exists" }], tag := .text " and " }]

/-- The requirements can be met: the rules fall into three clusters, one rule cannot be compared,
and another is skipped. -/
theorem trace_of_evaluate_banded :
    let subject : Value := .map [(.text "age", .int 20)]
    ∃ e, (banded.evaluate {} subject).result = .ok e ∧ e.groups.length = 3 ∧
      List.Forall₂ (Rule.Traced subject) (banded.rules.filter (·.isActive))
        (e.groups.flatMap (·.results)) ∧
      (e.groups.flatMap (·.results)).map (fun r => (r.ruleId, r.passed, r.skipped)) =
        [("age", true, false), ("card", false, false), ("age", false, true)] ∧
      e.failures.map (·.ruleId) = ["card"] := by
  intro subject
  have shape : (banded.evaluate {} subject).result.toOption.map (fun e => (e.groups.length,
      (e.groups.flatMap (·.results)).map (fun r => (r.ruleId, r.passed, r.skipped)),
      e.failures.map (·.ruleId))) =
      some (3, [("age", true, false), ("card", false, false), ("age", false, true)], ["card"]) := by
    decide +kernel
  obtain ⟨e, came, same⟩ := exists_ok_of_toOption shape
  obtain ⟨clusters, rest⟩ := Prod.mk.inj same
  obtain ⟨results, failures⟩ := Prod.mk.inj rest
  exact ⟨e, came, clusters, (trace_of_evaluate came).2.1 rfl, results, failures⟩

end Criteria
end Eligibility
