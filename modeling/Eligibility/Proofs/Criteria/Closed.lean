/-
# Evaluations always come to a result

A criteria whose identifiers are texts, whose cluster tags are texts or absent and whose threshold
is not an integer beyond every double comes to a result, for all settings and every subject
(`Criteria.evaluate_closed`): one result for each group, one for each active rule.  What a rule
comes to is settled by the rule and the subject, so a rule that is taken out of the criteria takes
its own result with it and changes no other one.
-/

import Eligibility.Proofs.Criteria.Returning

namespace Eligibility

/-- The fields that identify and cluster a rule are texts; the tag may be absent. -/
structure Rule.Typed (rule : Rule) : Prop where
  ruleId : rule.ruleId.IsText
  tag : rule.tag = .null ∨ rule.tag.IsText

/-- The identifiers of a group and its rules are texts. -/
structure Group.Typed (group : Group) : Prop where
  groupId : group.groupId.IsText
  rules : ∀ rule ∈ group.rules, rule.Typed

/-- The identifiers of a criteria, its groups and its rules are texts. -/
structure Criteria.Typed (criteria : Criteria) : Prop where
  criteriaId : criteria.criteriaId.IsText
  groups : ∀ group ∈ criteria.groups, group.Typed
  rules : ∀ rule ∈ criteria.rules, rule.Typed

/-! ### Clusters -/

namespace Cluster

theorem exists_tag {rule : Rule} (typed : rule.Typed) : ∃ tag, tag? rule = .ok tag := by
  rw [tag?]
  split
  · exact ⟨_, rfl⟩
  · obtain absent | ⟨s, same⟩ := typed.tag
    · next truthy => simp [absent, Value.isTruthy] at truthy
    · rw [same]
      exact ⟨_, rfl⟩

end Cluster

/-! ### Criteria -/

namespace Criteria

variable {criteria reduced : Criteria} {settings : Settings} {subject : Value}

theorem Typed.rulesInForce (typed : criteria.Typed) :
    ∀ rule ∈ criteria.rulesInForce, rule.Typed := by
  rw [Criteria.rulesInForce]
  split
  · exact typed.rules
  · intro rule member
    obtain ⟨group, inside, member⟩ := List.mem_flatMap.1 member
    exact (typed.groups group inside).rules rule member

theorem exists_thresholdInForce (inRange : criteria.threshold.asDouble? ≠ .error .integerTooLarge)
    (settings : Settings) : ∃ threshold, (criteria.thresholdInForce settings).result = .ok threshold := by
  rw [thresholdInForce]
  split
  · exact ⟨_, rfl⟩
  · split
    · exact ⟨_, rfl⟩
    · next tooLarge => exact absurd tooLarge inRange
    · exact ⟨_, rfl⟩

/-- A criteria and the same one without a rule, with the rules in force before and after it.  A
rule outside the groups is not in force when there are groups. -/
inductive Without (criteria : Criteria) : Criteria → List Rule → List Rule → List Rule → Prop where
  | grouped {groups others : List Group} {group : Group} {rules later : List Rule} {rule : Rule}
      (place : criteria.groups = groups ++ group :: others)
      (inside : group.rules = rules ++ rule :: later) :
      Without criteria
        { criteria with groups := groups ++ { group with rules := rules ++ later } :: others }
        (groups.flatMap (·.rules) ++ rules) [rule] (later ++ others.flatMap (·.rules))
  | ungrouped {rules later : List Rule} {rule : Rule} (none : criteria.groups = [])
      (inside : criteria.rules = rules ++ rule :: later) :
      Without criteria { criteria with rules := rules ++ later } rules [rule] later
  | ignored {rules later : List Rule} {rule : Rule} (some : criteria.groups ≠ [])
      (inside : criteria.rules = rules ++ rule :: later) :
      Without criteria { criteria with rules := rules ++ later }
        (criteria.groups.flatMap (·.rules)) [] []

theorem Without.rulesInForce {before taken after : List Rule}
    (without : Without criteria reduced before taken after) :
    criteria.rulesInForce = before ++ taken ++ after ∧
      reduced.rulesInForce = before ++ after := by
  simp only [Criteria.rulesInForce]
  cases without with
  | grouped place inside => simp [place, inside]
  | ungrouped none inside => simp [none, inside]
  | ignored some inside => simp [some]

theorem Without.typed {before taken after : List Rule}
    (without : Without criteria reduced before taken after) (typed : criteria.Typed) :
    reduced.Typed := by
  have fewer {P : Rule → Prop} {rules later : List Rule} {rule : Rule}
      (all : ∀ r ∈ rules ++ rule :: later, P r) : ∀ r ∈ rules ++ later, P r := fun r member =>
    all r (List.mem_append.2 ((List.mem_append.1 member).imp_right (List.mem_cons_of_mem _)))
  cases without with
  | @grouped groups others group rules later rule place inside =>
    have each := typed.groups
    rw [place] at each
    refine ⟨typed.criteriaId, fun other member => ?_, typed.rules⟩
    obtain member | member := List.mem_append.1 member
    · exact each other (by simp [member])
    · obtain rfl | member := List.mem_cons.1 member
      · have own := each group (by simp)
        exact ⟨own.groupId, fewer (inside ▸ own.rules)⟩
      · exact each other (by simp [member])
  | ungrouped none inside => exact ⟨typed.criteriaId, typed.groups, fewer (inside ▸ typed.rules)⟩
  | ignored some inside => exact ⟨typed.criteriaId, typed.groups, fewer (inside ▸ typed.rules)⟩

theorem Without.threshold {before taken after : List Rule}
    (without : Without criteria reduced before taken after) :
    reduced.threshold = criteria.threshold := by
  cases without with
  | grouped | ungrouped | ignored => rfl

theorem Typed.returning (typed : criteria.Typed)
    (inRange : criteria.threshold.asDouble? ≠ .error .integerTooLarge) (settings : Settings) :
    criteria.Returning settings where
  criteriaId := by
    obtain ⟨s, named⟩ := resultId_of_isText typed.criteriaId
    exact ⟨some s, named⟩
  threshold := exists_thresholdInForce inRange settings
  tags _ rule member := Cluster.exists_tag (typed.rules rule member)
  groups group member := (typed.groups group member).groupId
  rules rule member := (typed.rulesInForce rule (List.mem_of_mem_filter member)).ruleId

theorem exists_evaluate (typed : criteria.Typed)
    (inRange : criteria.threshold.asDouble? ≠ .error .integerTooLarge) (settings : Settings)
    (subject : Value) :
    ∃ e, (criteria.evaluate settings subject).result = .ok e ∧
      (∃ groups, criteria.groupsInForce.result = .ok groups ∧
        e.groups.map (fun g => Value.text g.groupId) = groups.map (·.groupId)) ∧
      Answers subject criteria.activeRules e.results := by
  obtain ⟨e, came⟩ := exists_evaluate_iff.2 (typed.returning inRange settings)
  obtain ⟨groups, inForce, answers⟩ := groupAnswers_of_evaluate came
  exact ⟨e, came, ⟨groups, inForce, answers.map_groupId⟩, answers_of_evaluate came⟩

/-- **An evaluation always comes to a result**, with one for each group and one for each active
rule.  A rule that is taken out takes its result with it, and the others stay what they are. -/
theorem evaluate_closed (typed : criteria.Typed)
    (inRange : criteria.threshold.asDouble? ≠ .error .integerTooLarge) (settings : Settings)
    (subject : Value) :
    ∃ e, (criteria.evaluate settings subject).result = .ok e ∧
      (∃ groups, criteria.groupsInForce.result = .ok groups ∧
        e.groups.map (fun g => Value.text g.groupId) = groups.map (·.groupId)) ∧
      Answers subject criteria.activeRules e.results ∧
      ∀ reduced before taken after, criteria.Without reduced before taken after →
        ∃ e', (reduced.evaluate settings subject).result = .ok e' ∧ ∃ first own last,
          e.results = first ++ own ++ last ∧ e'.results = first ++ last ∧
          Answers subject (before.filter (·.isActive)) first ∧
          Answers subject (taken.filter (·.isActive)) own ∧
          Answers subject (after.filter (·.isActive)) last := by
  obtain ⟨e, came, groups, answers⟩ := exists_evaluate typed inRange settings subject
  refine ⟨e, came, groups, answers, fun reduced before taken after without => ?_⟩
  have inRange' : reduced.threshold.asDouble? ≠ .error .integerTooLarge := by
    rwa [without.threshold]
  obtain ⟨e', came', -, answers'⟩ :=
    exists_evaluate (without.typed typed) inRange' settings subject
  obtain ⟨whole, part⟩ := without.rulesInForce
  rw [activeRules, whole, List.filter_append, List.filter_append] at answers
  rw [activeRules, part, List.filter_append] at answers'
  obtain ⟨head, last, same, front, back⟩ := answers.of_append
  obtain ⟨first, own, rfl, start, middle⟩ := front.of_append
  have rest : e'.results = first ++ last := answers'.unique (start.append back)
  exact ⟨e', came', first, own, last, same, rest, start, middle, back⟩

/-- A criteria with an operator, a weight, an expression, a method and a threshold that are none. -/
def muddled : Criteria where
  criteriaId := .text "muddled"
  groups := [{
    groupId := .text "only"
    combination := .text "boolean"
    expression := .text "a and ("
    rules := [
      { ruleId := .text "first", field := "age", operator := .text "~" },
      { ruleId := .text "second", field := "age", operator := .text ">", weight := .int (-1) }] }]
  method := .text "best"
  threshold := .text "high"

/-- The requirements can be met by a criteria that is not set up properly, and a subject that is
no map. -/
theorem evaluate_closed_muddled : muddled.Typed ∧
    muddled.threshold.asDouble? ≠ .error .integerTooLarge ∧
    ∃ e, (muddled.evaluate {} (.int 3)).result = .ok e ∧
      Answers (.int 3) muddled.activeRules e.results := by
  have typed : muddled.Typed := by
    refine ⟨⟨_, rfl⟩, fun group member => ?_, nofun⟩
    obtain rfl := List.mem_singleton.1 member
    refine ⟨⟨_, rfl⟩, fun rule member => ?_⟩
    simp only [List.mem_cons, List.not_mem_nil, or_false] at member
    obtain rfl | rfl := member
    · exact ⟨⟨_, rfl⟩, .inl rfl⟩
    · exact ⟨⟨_, rfl⟩, .inl rfl⟩
  have inRange : muddled.threshold.asDouble? ≠ .error .integerTooLarge := nofun
  obtain ⟨e, came, -, answers, -⟩ := evaluate_closed typed inRange {} (.int 3)
  exact ⟨typed, inRange, e, came, answers⟩

end Criteria
end Eligibility
