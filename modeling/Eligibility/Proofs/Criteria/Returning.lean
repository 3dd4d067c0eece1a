/-
# When an evaluation comes to a result

Whether a criteria comes to a result is settled by the criteria and the settings: its identifier,
those of its groups and of its active rules, its cluster tags and its threshold
(`Criteria.Returning`).  No subject and no expected value has a say in it
(`Criteria.exists_evaluate_iff`).

A result that has come is then known in full (`Criteria.Reports`): there is one result for each
active rule, in order (`Criteria.answers_of_evaluate`), and the score is that of all of them
(`Criteria.score_of_evaluate`).
-/

import Eligibility.Proofs.Criteria.Skipping
import Eligibility.Proofs.Rule.Outcome

namespace Eligibility

/-! ### Clusters -/

namespace Cluster

/-- What clusters are of rules: they have names, and hold the rules in order. -/
def Holds (rules : List Rule) (groups : List Group) : Prop :=
  groups.flatMap (·.rules) = rules ∧ ∀ group ∈ groups, group.groupId.IsText

theorem exists_extend {rules : List Rule} (tags : ∀ rule ∈ rules, ∃ tag, tag? rule = .ok tag)
    (number : Nat) (current : String) {opened : Group} (named : opened.groupId.IsText) :
    ∃ groups, (extend number current opened rules).result = .ok groups ∧
      Holds (opened.rules ++ rules) groups := by
  induction rules generalizing number current opened with
  | nil =>
    refine ⟨[opened], rfl, by simp, fun group member => ?_⟩
    rwa [List.mem_singleton.1 member]
  | cons rule rules ih =>
    have others : ∀ rule ∈ rules, ∃ tag, tag? rule = .ok tag := fun rule member =>
      tags rule (by simp [member])
    obtain ⟨tag, found⟩ := tags rule (by simp)
    rw [extend, Trial.result_bind, Trial.result_ofExcept, found]
    change ∃ groups, (if startsNew tag current then _ else _ : Trial (List Group)).result = _ ∧ _
    split
    · -- The rule starts a cluster, which is open from here on.
      have started : (start (number + 1) tag rule).value.groupId.IsText := ⟨_, rfl⟩
      obtain ⟨groups, more, held, names⟩ := ih others (number + 1) (inForce tag) started
      refine ⟨opened :: groups, ?_, ?_, ?_⟩
      · rw [Trial.result_bind, Trial.result_ofNoted]
        change (_ >>= _ : Trial (List Group)).result = _
        rw [Trial.result_bind, more]
        rfl
      · rw [List.flatMap_cons, held]
        rfl
      · intro group member
        obtain rfl | member := List.mem_cons.1 member
        · exact named
        · exact names group member
    · have extended : { opened with rules := opened.rules ++ [rule] }.groupId.IsText := named
      obtain ⟨groups, more, held, names⟩ := ih others number current extended
      exact ⟨groups, more, by simpa using held, names⟩

theorem exists_ofRules {rules : List Rule} (tags : ∀ rule ∈ rules, ∃ tag, tag? rule = .ok tag) :
    ∃ groups, (ofRules rules).result = .ok groups ∧ Holds rules groups := by
  rw [ofRules]
  split
  · next none => exact ⟨[], rfl, (List.isEmpty_iff.1 none).symm, nofun⟩
  · split
    · refine ⟨[plain rules], rfl, by simp [plain], fun group member => ?_⟩
      rw [List.mem_singleton.1 member]
      exact ⟨_, rfl⟩
    · cases rules with
      | nil => exact ⟨[], rfl, rfl, nofun⟩
      | cons rule rules =>
        obtain ⟨tag, found⟩ := tags rule (by simp)
        have others : ∀ rule ∈ rules, ∃ tag, tag? rule = .ok tag := fun rule member =>
          tags rule (by simp [member])
        have started : (start 1 tag rule).value.groupId.IsText := ⟨_, rfl⟩
        obtain ⟨groups, more, held⟩ := exists_extend others 1 (inForce tag) started
        refine ⟨groups, ?_, held⟩
        rw [ofTagged, Trial.result_bind, Trial.result_ofExcept, found]
        exact more

/-- Rules that have been clustered have tags, or none. -/
theorem tags_of_extend {rules : List Rule} {number : Nat} {current : String} {opened : Group}
    {groups : List Group} (came : (extend number current opened rules).result = .ok groups) :
    ∀ rule ∈ rules, ∃ tag, tag? rule = .ok tag := by
  induction rules generalizing number current opened groups with
  | nil => nofun
  | cons rule rules ih =>
    rw [extend, Trial.result_bind_eq_ok] at came
    obtain ⟨tag, found, rest⟩ := came
    have own : tag? rule = .ok tag := found
    have others : ∀ rule ∈ rules, ∃ tag, tag? rule = .ok tag := by
      split at rest
      · obtain ⟨next, -, rest⟩ := Trial.result_bind_eq_ok.1 rest
        obtain ⟨more, came, -⟩ := Trial.result_bind_eq_ok.1 rest
        exact ih came
      · exact ih rest
    intro other member
    rcases List.mem_cons.1 member with rfl | member
    · exact ⟨tag, own⟩
    · exact others other member

theorem tags_of_ofRules {rules : List Rule} {groups : List Group}
    (came : (ofRules rules).result = .ok groups) : ∀ rule ∈ rules, ∃ tag, tag? rule = .ok tag := by
  rw [ofRules] at came
  split at came
  · next none =>
    rw [List.isEmpty_iff.1 none]
    nofun
  · split at came
    · next untagged =>
      intro rule member
      have plain : (!rule.tag.isTruthy) = true := List.all_eq_true.1 untagged rule member
      exact ⟨none, by rw [tag?, if_pos plain]⟩
    · cases rules with
      | nil => nofun
      | cons rule rules =>
        rw [ofTagged, Trial.result_bind_eq_ok] at came
        obtain ⟨tag, found, rest⟩ := came
        obtain ⟨first, -, rest⟩ := Trial.result_bind_eq_ok.1 rest
        intro other member
        rcases List.mem_cons.1 member with rfl | member
        · exact ⟨tag, found⟩
        · exact tags_of_extend rest other member

theorem holds_of_ofRules {rules : List Rule} {groups : List Group}
    (came : (ofRules rules).result = .ok groups) : Holds rules groups := by
  obtain ⟨clusters, clustered, held⟩ := exists_ofRules (tags_of_ofRules came)
  rwa [Except.ok.inj (clustered.symm.trans came)] at held

end Cluster

/-- The results of the rules of an evaluation, in order. -/
def Evaluation.results (e : Evaluation) : List RuleResult := e.groups.flatMap (·.results)

/-! ### Names -/

namespace Answers

variable {subject : Value} {rules : List Rule} {results : List RuleResult}

/-- Rules that have results have names. -/
theorem isText (answers : Answers subject rules results) :
    ∀ rule ∈ rules, rule.ruleId.IsText :=
  forall_of_forall₂ answers.outcomes fun _ _ came => Rule.isText_of_outcome came

end Answers

namespace Criteria

variable {criteria : Criteria} {settings : Settings} {subject : Value}

theorem GroupAnswers.isText {groups : List Group} {results : List GroupResult}
    (answers : GroupAnswers subject groups results) : ∀ group ∈ groups, group.groupId.IsText := by
  exact forall_of_forall₂ answers fun group g came =>
    ⟨_, (Group.reports_of_evaluate came).2.groupId⟩

/-! ### Evaluations -/

/-- The rules that an evaluation looks at, active or not, in order. -/
def rulesInForce (criteria : Criteria) : List Rule :=
  if criteria.groups.isEmpty then criteria.rules else criteria.groups.flatMap (·.rules)

/-- The active rules in force, in order. -/
def activeRules (criteria : Criteria) : List Rule := criteria.rulesInForce.filter (·.isActive)

/-- What a criteria needs for its evaluations to come to a result. -/
structure Returning (criteria : Criteria) (settings : Settings) : Prop where
  criteriaId : ∃ id, criteria.resultId = .ok id
  threshold : ∃ threshold, (criteria.thresholdInForce settings).result = .ok threshold
  tags : criteria.groups = [] → ∀ rule ∈ criteria.rules, ∃ tag, Cluster.tag? rule = .ok tag
  groups : ∀ group ∈ criteria.groups, group.groupId.IsText
  rules : ∀ rule ∈ criteria.activeRules, rule.ruleId.IsText

theorem groupsInForce_eq_ok {groups : List Group} :
    criteria.groupsInForce.result = .ok groups ↔
      (criteria.groups = [] ∧ (Cluster.ofRules criteria.rules).result = .ok groups) ∨
        (criteria.groups ≠ [] ∧ criteria.groups = groups) := by
  cases given : criteria.groups with
  | nil =>
    simp [groupsInForce, given]
  | cons group more =>
    rw [groupsInForce_of_groups given (by simp)]
    simp

/-- The groups in force hold the rules in force. -/
theorem flatMap_groupsInForce {groups : List Group}
    (inForce : criteria.groupsInForce.result = .ok groups) :
    groups.flatMap (·.rules) = criteria.rulesInForce := by
  unfold rulesInForce
  rcases groupsInForce_eq_ok.1 inForce with ⟨none, came⟩ | ⟨some, rfl⟩
  · rw [none]
    exact (Cluster.holds_of_ofRules came).1
  · rw [if_neg (by simpa using some)]

/-- The active rules in force are those of the groups in force. -/
theorem activeRules_eq {groups : List Group}
    (inForce : criteria.groupsInForce.result = .ok groups) :
    criteria.activeRules = groups.flatMap (·.activeRules) := by
  rw [activeRules, ← flatMap_groupsInForce inForce, List.filter_flatMap]
  rfl

/-- The group results of an evaluation are those of the groups in force. -/
theorem groupAnswers_of_evaluate {e : Evaluation}
    (came : (criteria.evaluate settings subject).result = .ok e) :
    ∃ groups, criteria.groupsInForce.result = .ok groups ∧ GroupAnswers subject groups e.groups := by
  obtain ⟨groups, inForce, answers, -⟩ := reports_of_evaluate came
  exact ⟨groups, inForce, answers⟩

/-- **The results of an evaluation are those of the active rules**, one by one. -/
theorem answers_of_evaluate {e : Evaluation}
    (came : (criteria.evaluate settings subject).result = .ok e) :
    Answers subject criteria.activeRules e.results := by
  obtain ⟨groups, inForce, answers⟩ := groupAnswers_of_evaluate came
  rw [activeRules_eq inForce]
  exact answers.answers

/-- **The score is that of all results**; without any it is zero. -/
theorem score_of_evaluate {e : Evaluation}
    (came : (criteria.evaluate settings subject).result = .ok e) :
    e.score = (criteria.methodInForce settings).value.score e.results := by
  obtain ⟨groups, -, -, threshold, -, reports⟩ := reports_of_evaluate came
  exact reports.score

/-- Where there is something to evaluate, the score settles whether a criteria passes, and the
decision. -/
theorem passed_of_evaluate {e : Evaluation} (some : criteria.groups ≠ [] ∨ criteria.rules ≠ [])
    (came : (criteria.evaluate settings subject).result = .ok e) :
    ∃ threshold, (criteria.thresholdInForce settings).result = .ok threshold ∧
      e.passed = (criteria.methodInForce settings).value.passes e.score threshold ∧
      e.decision = criteria.decision settings e.score := by
  obtain ⟨groups, inForce, answers, threshold, bar, reports⟩ := reports_of_evaluate came
  have notNone : groups ≠ [] := by
    rintro rfl
    rcases groupsInForce_eq_ok.1 inForce with ⟨none, clustered⟩ | ⟨given, none⟩
    · exact some.elim (absurd none) (absurd (Cluster.holds_of_ofRules clustered).1.symm)
    · exact given none
  have answered : e.groups ≠ [] := by
    intro none
    rw [none] at answers
    exact notNone (List.forall₂_nil_right_iff.1 answers)
  exact ⟨threshold, bar, reports.passed answered, reports.decision answered⟩

theorem returning_of_evaluate {e : Evaluation}
    (came : (criteria.evaluate settings subject).result = .ok e) : criteria.Returning settings := by
  obtain ⟨groups, inForce, answers, threshold, bar, reports⟩ := reports_of_evaluate came
  refine ⟨⟨_, reports.criteriaId⟩, ⟨threshold, bar⟩, ?_, ?_, (answers_of_evaluate came).isText⟩
  · intro none
    rcases groupsInForce_eq_ok.1 inForce with ⟨-, clustered⟩ | ⟨some, -⟩
    · exact Cluster.tags_of_ofRules clustered
    · exact absurd none some
  · rcases groupsInForce_eq_ok.1 inForce with ⟨none, -⟩ | ⟨-, rfl⟩
    · rw [none]
      nofun
    · exact answers.isText

/-- **An evaluation comes to a result exactly when the criteria is fit for one.**  The subject has
no say in it. -/
theorem exists_evaluate_iff :
    (∃ e, (criteria.evaluate settings subject).result = .ok e) ↔ criteria.Returning settings := by
  constructor
  · rintro ⟨e, came⟩
    exact returning_of_evaluate came
  · rintro ⟨⟨id, named⟩, ⟨threshold, bar⟩, tags, groupIds, rules⟩
    obtain ⟨groups, inForce, groupsNamed⟩ : ∃ groups, criteria.groupsInForce.result = .ok groups ∧
        ∀ group ∈ groups, group.groupId.IsText := by
      by_cases none : criteria.groups = []
      · obtain ⟨groups, came, held⟩ := Cluster.exists_ofRules (tags none)
        exact ⟨groups, groupsInForce_eq_ok.2 (.inl ⟨none, came⟩), held.2⟩
      · exact ⟨criteria.groups, groupsInForce_eq_ok.2 (.inr ⟨none, rfl⟩), groupIds⟩
    rw [activeRules_eq inForce] at rules
    obtain ⟨results, answers⟩ := GroupAnswers.exists_of_named groupsNamed rules subject
    by_cases none : groups.isEmpty
    · obtain ⟨e, ended⟩ : ∃ e, criteria.vacuous settings (criteria.methodInForce settings).value
          threshold = .ok e := by
        rw [vacuous, named]
        exact ⟨_, rfl⟩
      exact ⟨e, result_evaluate.2 ⟨groups, inForce, threshold, bar, by rwa [if_pos none]⟩⟩
    · obtain ⟨e, ended⟩ : ∃ e, criteria.summarize settings (criteria.methodInForce settings).value
          threshold results = .ok e := by
        rw [summarize, named]
        exact ⟨_, rfl⟩
      exact ⟨e, result_evaluate.2 ⟨groups, inForce, threshold, bar, by
        rw [if_neg none]
        exact ⟨results, answers, ended⟩⟩⟩

end Criteria
end Eligibility
