/-
# How rules, groups and criteria come out

The evaluation of a criteria taken apart: the results of its rules, each of which depends on its
rule and the subject alone (`Answers`), the results of its groups, and the summary of those
(`Criteria.Reports`).

A rule whose identifier is a text always has a result (`Rule.exists_checkClosed`): whatever goes
wrong in it, the failed result of `checkClosed` stands in.
-/

import Eligibility.Criteria.Evaluation
import Eligibility.Proofs.Trial

namespace Eligibility

variable {subject : Value}

/-! ### Rules -/

/-- A value that is a text. -/
def Value.IsText (v : Value) : Prop := ∃ s, v = .text s

theorem requireText_eq_ok {field : String} {v : Value} {s : String} :
    requireText field v = .ok s ↔ v = .text s := by
  constructor
  · intro found
    cases v with
    | text t => rw [Except.ok.inj found]
    | _ => cases found
  · rintro rfl
    rfl

/-- What is built from the name of a thing. -/
theorem named_eq_ok {α : Type} {field : String} {v : Value} {build : String → α} {a : α} :
    (requireText field v >>= fun s => .ok (build s)) = .ok a ↔ ∃ s, v = .text s ∧ a = build s := by
  constructor
  · intro came
    obtain ⟨s, found, same⟩ := bind_eq_ok.1 came
    exact ⟨s, requireText_eq_ok.1 found, (Except.ok.inj same).symm⟩
  · rintro ⟨s, rfl, rfl⟩
    rfl

theorem Rule.exists_failed {rule : Rule} (named : rule.ruleId.IsText) (actual : Value)
    (error : String) : ∃ r, rule.failed actual error = .ok r := by
  obtain ⟨ruleId, same⟩ := named
  rw [Rule.failed, requireText_eq_ok.2 same]
  exact ⟨_, rfl⟩

/-- **A rule with a name has a result**, however it is set up and whatever the subject is. -/
theorem Rule.exists_checkClosed {rule : Rule} (named : rule.ruleId.IsText) (subject : Value) :
    ∃ r, (rule.checkClosed subject).result = .ok r := by
  rw [Rule.checkClosed, Trial.result_bind, Trial.result_ofNoted, Trial.value_attempt]
  cases (rule.check subject).result with
  | ok r => exact ⟨r, rfl⟩
  | error failure => exact rule.exists_failed named .null failure.message

theorem exists_of_forall₂_append {α β : Type} {R : α → β → Prop} {first last : List α}
    {whole : List β} (h : List.Forall₂ R (first ++ last) whole) :
    ∃ front back, whole = front ++ back ∧ List.Forall₂ R first front ∧ List.Forall₂ R last back := by
  refine ⟨whole.take first.length, whole.drop first.length, (List.take_append_drop ..).symm, ?_, ?_⟩
  · simpa using List.forall₂_take first.length h
  · simpa using List.forall₂_drop first.length h

theorem forall_of_forall₂ {α β : Type} {R : α → β → Prop} {P : α → Prop} {as : List α}
    {bs : List β} (h : List.Forall₂ R as bs) (each : ∀ a b, R a b → P a) : ∀ a ∈ as, P a :=
  ((List.forall₂_and_left as bs).1 (h.imp fun a b related => ⟨each a b related, related⟩)).1

/-- The results are those of the rules, one by one. -/
def Answers (subject : Value) (rules : List Rule) (results : List RuleResult) : Prop :=
  List.Forall₂ (fun rule result => (rule.checkClosed subject).result = .ok result) rules results

namespace Answers

variable {rules later : List Rule} {results others : List RuleResult}

theorem exists_of_named (named : ∀ rule ∈ rules, rule.ruleId.IsText) :
    ∃ results, Answers subject rules results := by
  induction rules with
  | nil => exact ⟨[], .nil⟩
  | cons rule rules ih =>
    obtain ⟨r, came⟩ := rule.exists_checkClosed (named rule (by simp)) subject
    obtain ⟨results, more⟩ := ih fun rule member => named rule (by simp [member])
    exact ⟨r :: results, .cons came more⟩

theorem unique (h : Answers subject rules results) (h' : Answers subject rules others) :
    results = others :=
  List.right_unique_forall₂' (fun _ _ _ came came' => Except.ok.inj (came.symm.trans came')) h h'

theorem append (h : Answers subject rules results) (h' : Answers subject later others) :
    Answers subject (rules ++ later) (results ++ others) :=
  List.rel_append h h'

theorem of_append (h : Answers subject (rules ++ later) results) :
    ∃ first last, results = first ++ last ∧ Answers subject rules first ∧
      Answers subject later last :=
  exists_of_forall₂_append h

end Answers

/-! ### Groups -/

theorem Group.result_outcomes {rules : List Rule} {results : List RuleResult} :
    (Group.outcomes subject rules).result = .ok results ↔ Answers subject rules results := by
  refine collected_eq_ok (fun rule => (rule.checkClosed subject).result)
    (fun rules => (Group.outcomes subject rules).result) rfl fun rule rest => ?_
  simp only [Group.outcomes, Trial.result_bind, Trial.result_pure]

/-- A group comes out as the summary of the results of its active rules. -/
theorem Group.result_evaluate {group : Group} {g : GroupResult} :
    (group.evaluate subject).result = .ok g ↔
      ∃ results, Answers subject group.activeRules results ∧ group.summarize results = .ok g := by
  rw [Group.evaluate]
  simp only [Trial.result_bind_eq_ok, Group.result_outcomes]
  refine exists_congr fun results => and_congr_right fun _ => ?_
  split
  · rw [Trial.result_note_bind, Trial.result_ofExcept]
  · rw [Trial.result_ofExcept]

/-- What a group reports of the results of its rules. -/
structure Group.Reports (group : Group) (results : List RuleResult) (g : GroupResult) : Prop where
  groupId : group.groupId = .text g.groupId
  name : g.name = group.name
  combination : g.combination = group.combination.display
  passed : g.passed = Combination.passed (group.combined results)
  score : g.score = Score.average results
  passedCount : g.passedCount = Eligibility.passedCount results
  effectiveCount : g.effectiveCount = (effective results).length
  lists : g.results = results
  error : g.error = Combination.error? (group.combined results)

theorem Group.reports_of_summarize {group : Group} {results : List RuleResult} {g : GroupResult}
    (came : group.summarize results = .ok g) : group.Reports results g := by
  obtain ⟨groupId, named, rfl⟩ := named_eq_ok.1 came
  exact ⟨named, rfl, rfl, rfl, rfl, rfl, rfl, rfl, rfl⟩

/-- **A group lists the results of its active rules**, and reports of these. -/
theorem Group.reports_of_evaluate {group : Group} {g : GroupResult}
    (came : (group.evaluate subject).result = .ok g) :
    Answers subject group.activeRules g.results ∧ group.Reports g.results g := by
  obtain ⟨results, answers, summary⟩ := Group.result_evaluate.1 came
  have reports := Group.reports_of_summarize summary
  obtain rfl := reports.lists
  exact ⟨answers, reports⟩

theorem Group.exists_summarize {group : Group} (named : group.groupId.IsText)
    (results : List RuleResult) : ∃ g, group.summarize results = .ok g := by
  obtain ⟨groupId, same⟩ := named
  rw [Group.summarize, requireText_eq_ok.2 same]
  exact ⟨_, rfl⟩

/-- **A group with a name has a result** when its active rules have names. -/
theorem Group.exists_evaluate {group : Group} (named : group.groupId.IsText)
    (rules : ∀ rule ∈ group.activeRules, rule.ruleId.IsText) (subject : Value) :
    ∃ g, (group.evaluate subject).result = .ok g := by
  obtain ⟨results, answers⟩ := Answers.exists_of_named rules
  obtain ⟨g, came⟩ := group.exists_summarize named results
  exact ⟨g, Group.result_evaluate.2 ⟨results, answers, came⟩⟩

/-! ### Criteria -/

theorem ScoringMethod.score_nil (method : ScoringMethod) : method.score [] = .zero := by
  cases method <;> rfl

namespace Criteria

/-- The results are those of the groups, one by one. -/
def GroupAnswers (subject : Value) (groups : List Group) (results : List GroupResult) : Prop :=
  List.Forall₂ (fun group g => (group.evaluate subject).result = .ok g) groups results

theorem result_outcomes {groups : List Group} {results : List GroupResult} :
    (outcomes subject groups).result = .ok results ↔ GroupAnswers subject groups results := by
  refine collected_eq_ok (fun group => (group.evaluate subject).result)
    (fun groups => (outcomes subject groups).result) rfl fun group rest => ?_
  simp only [outcomes, Trial.result_bind, Trial.result_pure]

/-- All results of rules come from the active rules of the groups, in order. -/
theorem GroupAnswers.answers {groups : List Group} {results : List GroupResult}
    (h : GroupAnswers subject groups results) :
    Answers subject (groups.flatMap (·.activeRules)) (results.flatMap (·.results)) := by
  induction h with
  | nil => exact .nil
  | cons came more ih =>
    rw [List.flatMap_cons, List.flatMap_cons]
    exact (Group.reports_of_evaluate came).1.append ih

/-- A group result tells which group it is of. -/
theorem GroupAnswers.map_groupId {groups : List Group} {results : List GroupResult}
    (h : GroupAnswers subject groups results) :
    results.map (fun g => Value.text g.groupId) = groups.map (·.groupId) := by
  induction h with
  | nil => rfl
  | cons came more ih =>
    rw [List.map_cons, List.map_cons, ih, (Group.reports_of_evaluate came).2.groupId]

theorem GroupAnswers.exists_of_named {groups : List Group}
    (named : ∀ group ∈ groups, group.groupId.IsText)
    (rules : ∀ rule ∈ groups.flatMap (·.activeRules), rule.ruleId.IsText) (subject : Value) :
    ∃ results, GroupAnswers subject groups results := by
  induction groups with
  | nil => exact ⟨[], .nil⟩
  | cons group groups ih =>
    rw [List.flatMap_cons] at rules
    obtain ⟨g, came⟩ := group.exists_evaluate (named group (by simp))
      (fun rule member => rules rule (by simp [member])) subject
    obtain ⟨results, more⟩ := ih (fun group member => named group (by simp [member]))
      fun rule member => rules rule (List.mem_append_right _ member)
    exact ⟨g :: results, .cons came more⟩

/-- A criteria comes out as the summary of the results of its groups. -/
theorem result_evaluate {criteria : Criteria} {settings : Settings} {e : Evaluation} :
    (criteria.evaluate settings subject).result = .ok e ↔
      ∃ groups, criteria.groupsInForce.result = .ok groups ∧
        ∃ threshold, (criteria.thresholdInForce settings).result = .ok threshold ∧
          if groups.isEmpty then
            criteria.vacuous settings (criteria.methodInForce settings).value threshold = .ok e
          else ∃ results, GroupAnswers subject groups results ∧
            criteria.summarize settings (criteria.methodInForce settings).value threshold results =
              .ok e := by
  rw [evaluate]
  simp only [Trial.result_bind_eq_ok, Trial.result_ofNoted, Except.ok.injEq, exists_eq_left']
  refine exists_congr fun groups => and_congr_right fun _ =>
    exists_congr fun threshold => and_congr_right fun _ => ?_
  split
  · rw [Trial.result_note_bind, Trial.result_ofExcept]
  · rw [Trial.result_bind_eq_ok]
    refine exists_congr fun results => and_congr result_outcomes ?_
    split
    · rw [Trial.result_note_bind, Trial.result_bind_note, Trial.result_ofExcept]
    · rw [Trial.result_bind_note, Trial.result_ofExcept]

/-- What a criteria reports of the results of its groups.  Whether it passed, and what is decided,
is fixed when there are none. -/
structure Reports (criteria : Criteria) (settings : Settings) (inForce : ScoringMethod) (bar : Double)
    (results : List GroupResult) (e : Evaluation) : Prop where
  criteriaId : criteria.resultId = .ok e.criteriaId
  lists : e.groups = results
  method : e.method = some inForce.text
  threshold : e.threshold = some bar
  score : e.score = inForce.score (results.flatMap (·.results))
  failures : e.failures = (results.flatMap (·.results)).filter (·.isFailure)
  passed : results ≠ [] → e.passed = inForce.passes e.score bar
  decision : results ≠ [] → e.decision = criteria.decision settings e.score

section Reports

variable {criteria : Criteria} {settings : Settings} {method : ScoringMethod} {threshold : Double}
  {e : Evaluation}

theorem parts_of_vacuous (came : criteria.vacuous settings method threshold = .ok e) :
    criteria.Reports settings method threshold [] e := by
  obtain ⟨id, named, ended⟩ := bind_eq_ok.1 came
  obtain rfl := Except.ok.inj ended
  exact ⟨named, rfl, rfl, rfl, method.score_nil.symm, rfl, absurd rfl, absurd rfl⟩

theorem parts_of_summarize {results : List GroupResult}
    (came : criteria.summarize settings method threshold results = .ok e) :
    criteria.Reports settings method threshold results e := by
  obtain ⟨id, named, ended⟩ := bind_eq_ok.1 came
  obtain rfl := Except.ok.inj ended
  exact ⟨named, rfl, rfl, rfl, rfl, rfl, fun _ => rfl, fun _ => rfl⟩

/-- **A criteria lists the results of the groups in force**, and reports of these, with the method
and the threshold in force. -/
theorem reports_of_evaluate (came : (criteria.evaluate settings subject).result = .ok e) :
    ∃ groups, criteria.groupsInForce.result = .ok groups ∧ GroupAnswers subject groups e.groups ∧
      ∃ threshold, (criteria.thresholdInForce settings).result = .ok threshold ∧
        criteria.Reports settings (criteria.methodInForce settings).value threshold e.groups e := by
  obtain ⟨groups, inForce, threshold, bar, rest⟩ := result_evaluate.1 came
  refine ⟨groups, inForce, ?_⟩
  split at rest
  · next none =>
    have reports := parts_of_vacuous rest
    rw [reports.lists, List.isEmpty_iff.1 none]
    exact ⟨.nil, threshold, bar, reports⟩
  · obtain ⟨results, answers, summary⟩ := rest
    have reports := parts_of_summarize summary
    obtain rfl := reports.lists
    exact ⟨answers, threshold, bar, reports⟩

end Reports

theorem resultId_of_isText {criteria : Criteria} (named : criteria.criteriaId.IsText) :
    ∃ s, criteria.resultId = .ok (some s) := by
  obtain ⟨s, same⟩ := named
  rw [resultId, same]
  exact ⟨s, rfl⟩

end Criteria
end Eligibility
