/-
# Skipped rules do not count

A rule whose conditions do not hold is skipped.  Its result is listed, and that is all: the
outcome of its group, of the criteria, the score, the decision and the failures are those of the
criteria without the rule (`Criteria.evaluate_without_rule`).  A rule that is not active does not
even show in the events.

Everything that is drawn from results is drawn from the effective ones, so the lemmas below say
for each summary that it stays when the effective results do.
-/

import Eligibility.Proofs.Criteria.Outcome

namespace Eligibility

/-! ### What is drawn from results -/

section Effective

variable {results others : List RuleResult}

theorem effective_append (results others : List RuleResult) :
    effective (results ++ others) = effective results ++ effective others :=
  List.filter_append ..

/-- A skipped result has no effect. -/
theorem effective_skipped {own : RuleResult} (skipped : own.skipped = true)
    (first last : List RuleResult) :
    effective (first ++ own :: last) = effective (first ++ last) := by
  rw [effective_append, effective_append, effective, effective, List.filter_cons,
    if_neg (by simp [RuleResult.isEffective, skipped])]
  rfl

/-- Failures are effective. -/
theorem failures_eq (results : List RuleResult) :
    results.filter (·.isFailure) = (effective results).filter fun r => !r.passed := by
  rw [effective, List.filter_filter]
  rfl

theorem passedCount_congr (same : effective results = effective others) :
    passedCount results = passedCount others := by
  rw [passedCount, same, passedCount]

theorem Score.average_congr (same : effective results = effective others) :
    Score.average results = Score.average others := by
  rw [Score.average, passedCount_congr same, same, Score.average]

theorem ScoringMethod.score_congr (method : ScoringMethod)
    (same : effective results = effective others) : method.score results = method.score others := by
  cases method with
  | weighted => simp only [ScoringMethod.score, Score.weighted, same]
  | passFail => simp only [ScoringMethod.score, Score.passFail, same]
  | sum => simp only [ScoringMethod.score, Score.sum, same]
  | average => exact Score.average_congr same

/-- A group comes out the same but for the list of its results. -/
theorem Group.summarize_congr {group : Group} {rules : List Rule} {g : GroupResult}
    (same : effective results = effective others) (came : group.summarize results = .ok g) :
    { group with rules := rules }.summarize others = .ok { g with results := others } := by
  obtain ⟨groupId, named, ended⟩ := bind_eq_ok.1 came
  obtain rfl := Except.ok.inj ended
  rw [Group.summarize]
  simp only [named, Group.combined, ← same, ← passedCount_congr same, ← Score.average_congr same]
  rfl

end Effective

/-- The rules before and after one that is active are listed before and after it.  When it is
skipped, the group comes out the same without it. -/
theorem Group.evaluate_of_skipped {group : Group} {subject : Value} {rules later : List Rule}
    {rule : Rule} (inside : group.rules = rules ++ rule :: later) (active : rule.isActive = true)
    {mine : GroupResult} (came : (group.evaluate subject).result = .ok mine) :
    ∃ first own last, mine.results = first ++ own :: last ∧
      Answers subject (rules.filter (·.isActive)) first ∧
      (rule.checkClosed subject).result = .ok own ∧
      Answers subject (later.filter (·.isActive)) last ∧
      (own.skipped = true → ({ group with rules := rules ++ later }.evaluate subject).result =
        .ok { mine with results := first ++ last }) := by
  obtain ⟨results, answers, summary⟩ := Group.result_evaluate.1 came
  rw [Group.activeRules, inside, List.filter_append, List.filter_cons, if_pos active] at answers
  obtain ⟨first, _, rfl, start, _ | @⟨_, own, _, last, checked, more⟩⟩ := answers.of_append
  refine ⟨first, own, last, (Group.reports_of_summarize summary).lists, start, checked, more,
    fun skipped => ?_⟩
  have same := effective_skipped skipped first last
  refine Group.result_evaluate.2 ⟨first ++ last, ?_, Group.summarize_congr same summary⟩
  rw [Group.activeRules, List.filter_append]
  exact start.append more

namespace Criteria

variable {criteria : Criteria} {settings : Settings} {subject : Value}

/-- A criteria comes out the same but for its groups when these agree in whether they passed and
in their effective results. -/
theorem summarize_congr {method : ScoringMethod} {threshold : Double} {groups : List Group}
    {results others : List GroupResult} {e : Evaluation}
    (passed : results.map (·.passed) = others.map (·.passed))
    (same : effective (results.flatMap (·.results)) = effective (others.flatMap (·.results)))
    (came : criteria.summarize settings method threshold results = .ok e) :
    { criteria with groups := groups }.summarize settings method threshold others =
      .ok { e with groups := others } := by
  obtain ⟨criteriaId, named, ended⟩ := bind_eq_ok.1 came
  obtain rfl := Except.ok.inj ended
  rw [summarize]
  simp only [combined, decision, ← passed, ← method.score_congr same, failures_eq, ← same]
  rw [show ({ criteria with groups := groups } : Criteria).resultId = .ok criteriaId from named]
  rfl

theorem groups_of_summarize {method : ScoringMethod} {threshold : Double}
    {results : List GroupResult} {e : Evaluation}
    (came : criteria.summarize settings method threshold results = .ok e) : e.groups = results :=
  (parts_of_summarize came).lists

theorem groupsInForce_of_groups {groups : List Group} (given : criteria.groups = groups)
    (some : groups ≠ []) : criteria.groupsInForce.result = .ok groups := by
  rw [groupsInForce, given, if_neg (by simpa using some)]
  split
  · rfl
  · rfl

theorem outcomes_congr {group group' : Group}
    (same : group'.evaluate subject = group.evaluate subject)
    (groups others : List Group) :
    outcomes subject (groups ++ group' :: others) =
      outcomes subject (groups ++ group :: others) := by
  induction groups with
  | nil => rw [List.nil_append, List.nil_append, outcomes, outcomes, same]
  | cons first groups ih => rw [List.cons_append, List.cons_append, outcomes, outcomes, ih]

/-- A group in the place of one that comes out the same makes no difference, in the events
either. -/
theorem evaluate_congr {groups others : List Group} {group group' : Group}
    (place : criteria.groups = groups ++ group :: others)
    (same : group'.evaluate subject = group.evaluate subject) (settings : Settings) :
    { criteria with groups := groups ++ group' :: others }.evaluate settings subject =
      criteria.evaluate settings subject := by
  have notNone (g : Group) : (groups ++ g :: others).isEmpty = false := by simp
  -- Rules outside the groups are noted, and not looked at.
  cases none : criteria.rules.isEmpty with
  | true =>
    simp only [evaluate, groupsInForce, place, notNone, none, Bool.false_eq_true, if_false,
      if_true, pure_bind, outcomes_congr same]
    rfl
  | false =>
    simp only [evaluate, groupsInForce, place, notNone, none, Bool.false_eq_true, if_false,
      bind_assoc, pure_bind, outcomes_congr same]
    rfl

/-- **A rule that is skipped or inactive makes no difference.**  Without an inactive rule of a
group an evaluation is the same, events and all.  Without a skipped one it comes to the same,
except that the result of the rule is not in the list of its group. -/
theorem evaluate_without_rule {groups others : List Group} {group : Group}
    {rules later : List Rule} {rule : Rule} (place : criteria.groups = groups ++ group :: others)
    (inside : group.rules = rules ++ rule :: later) (settings : Settings) (subject : Value) :
    let reduced : Criteria :=
      { criteria with groups := groups ++ { group with rules := rules ++ later } :: others }
    (rule.isActive = false →
      reduced.evaluate settings subject = criteria.evaluate settings subject) ∧
    ∀ e, rule.isActive = true → (criteria.evaluate settings subject).result = .ok e →
      ∃ before mine after first own last,
        e.groups = before ++ mine :: after ∧ GroupAnswers subject groups before ∧
        GroupAnswers subject others after ∧ mine.results = first ++ own :: last ∧
        Answers subject (rules.filter (·.isActive)) first ∧
        (rule.checkClosed subject).result = .ok own ∧
        Answers subject (later.filter (·.isActive)) last ∧
        (own.skipped = true → (reduced.evaluate settings subject).result =
          .ok { e with groups := before ++ { mine with results := first ++ last } :: after }) := by
  intro reduced
  refine ⟨fun inactive => ?inactive, fun e active came => ?skipped⟩
  case inactive =>
    refine evaluate_congr place ?_ settings
    have same : { group with rules := rules ++ later }.activeRules = group.activeRules := by
      simp [Group.activeRules, inside, inactive]
    rw [Group.evaluate, Group.evaluate, same]
    rfl
  case skipped =>
    obtain ⟨_, inForce, threshold, bar, rest⟩ := result_evaluate.1 came
    obtain rfl := Except.ok.inj ((groupsInForce_of_groups place (by simp)).symm.trans inForce)
    rw [if_neg (by simp)] at rest
    obtain ⟨results, answers, summary⟩ := rest
    obtain ⟨before, _, rfl, front, _ | @⟨_, mine, _, after, ownGroup, back⟩⟩ :=
      exists_of_forall₂_append answers
    obtain ⟨first, own, last, listed, start, checked, more, fewer⟩ :=
      Group.evaluate_of_skipped inside active ownGroup
    refine ⟨before, mine, after, first, own, last, groups_of_summarize summary, front, back, listed,
      start, checked, more, fun skipped => ?_⟩
    have same := effective_skipped skipped first last
    have some : groups ++ { group with rules := rules ++ later } :: others ≠ [] := by simp
    refine result_evaluate.2 ⟨reduced.groups, groupsInForce_of_groups rfl some, threshold, bar, ?_⟩
    rw [if_neg (by simp [reduced])]
    refine ⟨_, List.rel_append front (.cons (fewer skipped) back),
      summarize_congr (by simp) ?_ summary⟩
    simp only [List.flatMap_append, List.flatMap_cons, effective_append, listed, same]

/-- A rule that depends on a member of the subject. -/
def memberRule : Rule where
  ruleId := .text "discount"
  field := "age"
  operator := .text ">="
  expected := .int 65
  dependencies := [{ field := "card", operator := .text "exists" }]

/-- A rule for every subject. -/
def ageRule : Rule where
  ruleId := .text "age"
  field := "age"
  operator := .text ">="
  expected := .int 18

/-- The group of both rules. -/
def doorGroup : Group := { groupId := .text "door", rules := [memberRule, ageRule] }

/-- The criteria of that group. -/
def doorCriteria : Criteria := { criteriaId := .text "door", groups := [doorGroup] }

/-- The requirements can be met: the first rule is skipped, and the evaluation is the same without
it. -/
theorem evaluate_without_rule_door :
    let subject : Value := .map [(.text "age", .int 20)]
    doorCriteria.groups = [] ++ doorGroup :: [] ∧ doorGroup.rules = [] ++ memberRule :: [ageRule] ∧
    ∃ e own, (doorCriteria.evaluate {} subject).result = .ok e ∧ e.passed = true ∧
      (memberRule.checkClosed subject).result = .ok own ∧ own.skipped = true ∧
      ∃ mine last, e.groups = [mine] ∧ mine.results = own :: last ∧
        (({ doorCriteria with groups := [{ doorGroup with rules := [ageRule] }] } : Criteria).evaluate
          {} subject).result = .ok { e with groups := [{ mine with results := last }] } := by
  intro subject
  have place : doorCriteria.groups = [] ++ doorGroup :: [] := rfl
  have inside : doorGroup.rules = [] ++ memberRule :: [ageRule] := rfl
  have passes : (doorCriteria.evaluate {} subject).result.toOption.map (·.passed) = some true := by
    decide +kernel
  have skips : (memberRule.checkClosed subject).result.toOption.map (·.skipped) = some true := by
    decide +kernel
  obtain ⟨e, came, passed⟩ := exists_ok_of_toOption passes
  obtain ⟨own, checked, skipped⟩ := exists_ok_of_toOption skips
  obtain ⟨before, mine, after, first, own', last, groups, ⟨⟩, ⟨⟩, listed, ⟨⟩, checked', -, fewer⟩ :=
    (evaluate_without_rule place inside {} subject).2 e rfl came
  obtain rfl := Except.ok.inj (checked.symm.trans checked')
  exact ⟨place, inside, e, own, came, passed, checked, skipped, mine, last, groups, listed,
    fewer skipped⟩

end Criteria
end Eligibility
