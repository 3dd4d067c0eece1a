/-
# The plan of a criteria describes its evaluations

A plan is drawn up without a subject, from the same criteria and settings as an evaluation but on a
way of its own.  Whenever an evaluation comes to a result there is a plan, and the two agree
(`Criteria.exists_plan_describing`): on the groups and, in each, the active rules; on the method and
the threshold; and on the decision, which is what the plan's table and fallback give for the score.
-/

import Eligibility.Criteria.Plan
import Eligibility.Proofs.Criteria.Magnitude
import Eligibility.Proofs.Criteria.Trace
import Eligibility.Proofs.Decision

namespace Eligibility

/-! ### What a plan says -/

/-- The decision that a plan announces for a score: the label of the first threshold in its table
that the score reaches, and its fallback when there is none. -/
def Plan.announced (plan : Plan) (score : Double) : String :=
  ((plan.table.entries.find? fun entry => entry.1.le score).map (·.2)).getD plan.fallback

/-- A group of a plan describes a group result: they have the same identifier and name, the
combinator of the result is that of the group, shown as a text where it is none, and the results are
those of the active rules, in order. -/
structure Group.Describes (group : Group) (g : GroupResult) : Prop where
  groupId : group.groupId = .text g.groupId
  name : group.name = g.name
  combination : ∀ s, group.combination = .text s → s = g.combination
  shown : group.combination.display = g.combination
  ruleIds : (group.rules.filter (·.isActive)).map (·.ruleId) =
    g.results.map fun r => .text r.ruleId

/-- A plan describes an evaluation. -/
structure Plan.Describes (plan : Plan) (e : Evaluation) : Prop where
  groups : List.Forall₂ Group.Describes plan.groups e.groups
  activeRules : plan.activeRules = (e.groups.flatMap (·.results)).length
  method : e.method = some plan.method.text
  threshold : e.threshold = some plan.threshold
  decision : e.decision = plan.announced e.score

/-! ### Groups -/

section

variable {subject : Value}

/-- Results name the rules they are of. -/
theorem Answers.map_ruleId {rules : List Rule} {results : List RuleResult}
    (answers : Answers subject rules results) :
    rules.map (·.ruleId) = results.map fun r => .text r.ruleId := by
  have labels := answers.traced
  induction labels with
  | nil => rfl
  | cons own _ ih =>
    obtain _ | ⟨-, more⟩ := answers
    rw [List.map_cons, List.map_cons, own.labels.ruleId, ih more]

/-- **A group describes what it comes to.** -/
theorem Group.describes_of_evaluate {group : Group} {g : GroupResult}
    (came : (group.evaluate subject).result = .ok g) : group.Describes g := by
  obtain ⟨answers, reports⟩ := Group.reports_of_evaluate came
  refine ⟨reports.groupId, reports.name.symm, fun s text => ?_, reports.combination.symm,
    answers.map_ruleId⟩
  rw [reports.combination, text]
  rfl

theorem Criteria.GroupAnswers.describes {groups : List Group} {results : List GroupResult}
    (answers : GroupAnswers subject groups results) :
    List.Forall₂ Group.Describes groups results :=
  answers.imp fun _ _ came => Group.describes_of_evaluate came

end

/-- The active rules of a plan are those of its groups. -/
theorem Plan.activeRules_eq (plan : Plan) :
    plan.activeRules = (plan.groups.flatMap (·.activeRules)).length := by
  rw [activeRules, rules, List.countP_eq_length_filter, List.filter_flatMap]
  rfl

/-! ### Criteria -/

namespace Criteria

variable {criteria : Criteria} {settings : Settings} {subject : Value} {e : Evaluation}

/-- The parts of a plan: the groups and the threshold in force, and what is always there. -/
theorem result_plan {groups : List Group} {threshold : Double}
    (inForce : criteria.groupsInForce.result = .ok groups)
    (bar : (criteria.thresholdInForce settings).result = .ok threshold) :
    ∃ plan, (criteria.plan settings).result = .ok plan ∧ plan.groups = groups ∧
      plan.threshold = threshold ∧ plan.method = (criteria.methodInForce settings).value ∧
      ∀ score, plan.announced score = criteria.decision settings score := by
  simp only [plan, Trial.result_bind, Trial.result_ofNoted, inForce, bar]
  refine ⟨_, rfl, rfl, rfl, rfl, fun score => ?_⟩
  rw [decision, DecisionTable.label_eq]
  rfl

theorem method_of_evaluate (came : (criteria.evaluate settings subject).result = .ok e) :
    e.method = some (criteria.methodInForce settings).value.text := by
  obtain ⟨groups, -, -, threshold, -, reports⟩ := reports_of_evaluate came
  exact reports.method

/-- **The plan describes the evaluation**, whatever the criteria leaves to the settings and whatever
the subject is, as long as there is something to evaluate. -/
theorem exists_plan_describing (some : criteria.groups ≠ [] ∨ criteria.rules ≠ [])
    (came : (criteria.evaluate settings subject).result = .ok e) :
    ∃ plan, (criteria.plan settings).result = .ok plan ∧ plan.Describes e := by
  obtain ⟨groups, inForce, answers⟩ := groupAnswers_of_evaluate came
  obtain ⟨threshold, bar, reported⟩ := threshold_of_evaluate came
  obtain ⟨-, -, -, decision⟩ := passed_of_evaluate some came
  obtain ⟨plan, planned, rfl, rfl, method, announced⟩ := result_plan inForce bar
  refine ⟨plan, planned, answers.describes, ?_, ?_, reported, ?_⟩
  · rw [plan.activeRules_eq]
    exact answers.answers.length_eq
  · rw [method]
    exact method_of_evaluate came
  · rw [announced]
    exact decision

/-- Rules of two clusters, of which one is switched off, with a method by another name, a threshold
as a text and a table that leaves low scores to the settings. -/
def sifted : Criteria where
  criteriaId := .text "sifted"
  rules := [
    { ruleId := .text "age", field := "age", operator := .text ">=", expected := .int 18 },
    { ruleId := .text "old", field := "age", operator := .text ">", active := .int 0 },
    { ruleId := .text "card", field := "card", operator := .text "exists", tag := .text " or " }]
  method := .text "percentage"
  threshold := .text "6e1"
  table := some { entries := [(.ofNat 90, "High")], fallback := some "" }

/-- The requirements can be met: there are two groups with one active rule each, and the decision is
that of the settings. -/
theorem exists_plan_describing_sifted :
    let subject : Value := .map [(.text "age", .int 20)]
    ∃ e plan, (sifted.evaluate {} subject).result = .ok e ∧ (sifted.plan {}).result = .ok plan ∧
      plan.Describes e ∧ e.groups.map (·.groupId) = ["cluster_1", "cluster_2"] ∧
      plan.activeRules = 2 ∧ plan.method = .average ∧ plan.threshold = .ofNat 60 ∧
      plan.announced e.score = "Rejected" := by
  intro subject
  have shape : (sifted.evaluate {} subject).result.toOption.map
      (fun e => (e.groups.map (·.groupId), e.decision)) =
      some (["cluster_1", "cluster_2"], "Rejected") := by
    decide +kernel
  have drawn : (sifted.plan {}).result.toOption.map
      (fun plan => (plan.activeRules, plan.method, plan.threshold)) =
      some (2, .average, .ofNat 60) := by
    decide +kernel
  obtain ⟨e, came, same⟩ := exists_ok_of_toOption shape
  obtain ⟨groups, decision⟩ := Prod.mk.inj same
  have some : sifted.groups ≠ [] ∨ sifted.rules ≠ [] := .inr (List.cons_ne_nil _ _)
  obtain ⟨plan, planned, describes⟩ := exists_plan_describing some came
  rw [planned] at drawn
  obtain ⟨active, parts⟩ := Prod.mk.inj (Option.some.inj drawn)
  obtain ⟨method, threshold⟩ := Prod.mk.inj parts
  exact ⟨e, plan, came, planned, describes, groups, active, method, threshold,
    describes.decision.symm.trans decision⟩

end Criteria
end Eligibility
