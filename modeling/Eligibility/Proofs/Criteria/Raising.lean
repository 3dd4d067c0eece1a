/-
# Asking for more helps nobody

One rule of a criteria asks for at least some number, and is made to ask for more
(`Criteria.Asking`).  For every subject the other rules come to the same results, this one can only
stop to pass, the score does not rise, under no way to score, and neither does the threshold that
the decision comes from; and a criteria that did not pass does not begin to
(`Criteria.evaluate_raised`).

The weights need a finite sum and the thresholds must not be NaN: both are places where the order
of doubles ends.
-/

import Eligibility.Proofs.Criteria.Returning
import Eligibility.Proofs.Decision
import Eligibility.Proofs.Rule.Raising

namespace Eligibility

open Double (zero)

namespace Criteria

variable {criteria raised : Criteria} {settings : Settings} {subject expected : Value} {rule : Rule}
  {before taken after : List Rule}

/-- A criteria and the same one with another expected value for a rule, with the rules in force
before and after it.  A rule outside the groups is not in force when there are groups. -/
inductive Asking (criteria : Criteria) (rule : Rule) (expected : Value) :
    Criteria → List Rule → List Rule → List Rule → Prop where
  | grouped {groups others : List Group} {group : Group} {rules later : List Rule}
      (place : criteria.groups = groups ++ group :: others)
      (inside : group.rules = rules ++ rule :: later) :
      Asking criteria rule expected
        { criteria with groups :=
            groups ++ { group with rules := rules ++ rule.asking expected :: later } :: others }
        (groups.flatMap (·.rules) ++ rules) [rule] (later ++ others.flatMap (·.rules))
  | ungrouped {rules later : List Rule} (none : criteria.groups = [])
      (inside : criteria.rules = rules ++ rule :: later) :
      Asking criteria rule expected
        { criteria with rules := rules ++ rule.asking expected :: later } rules [rule] later
  | ignored {rules later : List Rule} (some : criteria.groups ≠ [])
      (inside : criteria.rules = rules ++ rule :: later) :
      Asking criteria rule expected
        { criteria with rules := rules ++ rule.asking expected :: later }
        (criteria.groups.flatMap (·.rules)) [] []

namespace Asking

/-- The rules in force are the same but for the one. -/
theorem rulesInForce (asking : criteria.Asking rule expected raised before taken after) :
    criteria.rulesInForce = before ++ taken ++ after ∧
      raised.rulesInForce = before ++ taken.map (·.asking expected) ++ after := by
  simp only [Criteria.rulesInForce]
  cases asking with
  | grouped place inside => simp [place, inside]
  | ungrouped none inside => simp [none, inside]
  | ignored some inside => simp [some]

theorem eq_of_mem_taken (asking : criteria.Asking rule expected raised before taken after) :
    ∀ other ∈ taken, other = rule := by
  cases asking with
  | grouped | ungrouped => simp
  | ignored => simp

theorem filter_isActive (expected : Value) (rules : List Rule) :
    (rules.map (·.asking expected)).filter (·.isActive) =
      (rules.filter (·.isActive)).map (·.asking expected) := by
  rw [List.filter_map]
  rfl

theorem activeRules (asking : criteria.Asking rule expected raised before taken after) :
    criteria.activeRules = before.filter (·.isActive) ++ taken.filter (·.isActive) ++
        after.filter (·.isActive) ∧
      raised.activeRules = before.filter (·.isActive) ++
        (taken.filter (·.isActive)).map (·.asking expected) ++ after.filter (·.isActive) := by
  obtain ⟨own, other⟩ := asking.rulesInForce
  simp only [Criteria.activeRules, own, other, List.filter_append, filter_isActive, and_self]

/-- There is something to evaluate. -/
theorem some (asking : criteria.Asking rule expected raised before taken after) :
    (criteria.groups ≠ [] ∨ criteria.rules ≠ []) ∧ (raised.groups ≠ [] ∨ raised.rules ≠ []) := by
  cases asking with
  | grouped place => simp [place]
  | ungrouped _ inside => simp [inside]
  | ignored some inside => simp [inside]

/-- Apart from groups and rules nothing is different. -/
theorem congr {α : Type} (asking : criteria.Asking rule expected raised before taken after)
    (f : Criteria → α) (free : ∀ c groups rules, f { c with groups, rules } = f c) :
    f raised = f criteria := by
  cases asking with
  | grouped | ungrouped | ignored => exact free criteria _ _

theorem returning (asking : criteria.Asking rule expected raised before taken after)
    (returning : criteria.Returning settings) : raised.Returning settings where
  criteriaId := by
    rw [asking.congr resultId fun _ _ _ => rfl]
    exact returning.criteriaId
  threshold := by
    rw [asking.congr (·.thresholdInForce settings) fun _ _ _ => rfl]
    exact returning.threshold
  tags := by
    cases asking with
    | grouped => simp
    | ignored some => exact fun none => absurd none some
    | @ungrouped rules later none inside =>
      intro _ other member
      have given := returning.tags none
      rw [inside] at given
      simp only [List.mem_append, List.mem_cons] at member given
      rcases member with member | rfl | member
      · exact given other (.inl member)
      · exact given rule (.inr (.inl rfl))
      · exact given other (.inr (.inr member))
  groups := by
    have given := returning.groups
    cases asking with
    | ungrouped | ignored => exact given
    | @grouped groups others group rules later place =>
      intro other member
      rw [place] at given
      simp only [List.mem_append, List.mem_cons] at member given
      rcases member with member | rfl | member
      · exact given other (.inl member)
      · exact given group (.inr (.inl rfl))
      · exact given other (.inr (.inr member))
  rules := by
    have given := returning.rules
    obtain ⟨own, other⟩ := asking.activeRules
    rw [own] at given
    rw [other]
    intro r member
    simp only [List.mem_append, List.mem_map] at member given
    rcases member with (member | ⟨r, member, rfl⟩) | member
    · exact given r (.inl (.inl member))
    · exact given r (.inl (.inr member))
    · exact given r (.inr member)

end Asking

/-- What an evaluation weighs is at most what the weights of its rules come to. -/
theorem isFinite_weighed {e : Evaluation} (came : (criteria.evaluate settings subject).result = .ok e)
    (finite : (Score.total (criteria.activeRules.filterMap (·.ownWeight?))).isFinite) :
    (Score.total (e.results.map (·.weighed))).isFinite := by
  have outcomes := (answers_of_evaluate came).outcomes
  rw [Score.total_filterMap] at finite
  have each : List.Forall₂ Score.Ordered (e.results.map (·.weighed))
      (criteria.activeRules.map fun rule => rule.ownWeight?.getD zero) := by
    refine List.forall₂_map_left_iff.2 (List.forall₂_map_right_iff.2 ?_)
    exact outcomes.flip.imp fun _ _ own => Rule.weighed_le_ownWeight? own
  have ordered := Score.total_le each
  exact Double.isFinite_of_le ordered.1 ordered.2 finite

/-- The results of rules fall when the rules ask for more. -/
theorem answers_falls {x y : Double} {rules : List Rule} {own own' : List RuleResult}
    (gte : ∀ rule ∈ rules, Operator.ofValue? rule.operator = some .gte ∧
      rule.expected.number? = .ok (some x))
    (higher : expected.number? = .ok (some y)) (le : x.le y) (answers : Answers subject rules own)
    (answers' : Answers subject (rules.map (·.asking expected)) own') :
    List.Forall₂ RuleResult.FallsTo own own' := by
  have outcomes := answers.outcomes
  have outcomes' := answers'.outcomes
  clear answers answers'
  induction outcomes generalizing own' with
  | nil =>
    cases outcomes'
    exact .nil
  | @cons rule r _ _ came _ ih =>
    rcases outcomes' with _ | ⟨came', more⟩
    have own := gte rule List.mem_cons_self
    obtain ⟨r', found, falls⟩ := Rule.exists_outcome_raised own.1 own.2 higher le came
    obtain rfl := Except.ok.inj (found.symm.trans came')
    exact .cons falls (ih (fun rule member => gte rule (List.mem_cons_of_mem _ member)) more)

/-- The weights of results are not negative. -/
theorem nonneg_of_evaluate {e : Evaluation}
    (came : (criteria.evaluate settings subject).result = .ok e) :
    ∀ r ∈ e.results, zero.le r.weight :=
  forall_of_forall₂ (answers_of_evaluate came).outcomes.flip fun _ _ own =>
    (Rule.counts_of_outcome own).nonneg

/-- The table that decides is in order. -/
theorem descends_of_proper (proper : ∀ table, criteria.table = some table → table.Proper) :
    (criteria.table.getD .builtIn).Descends := by
  cases given : criteria.table with
  | none => exact DecisionTable.builtIn_descends
  | some table => exact (proper table given).descends

/-- **Asking for more helps nobody.**  When a rule asks for more than before, the evaluation still
comes to a result.  The results of the other rules are the same, that of this one falls, the score
does not rise, what passes has passed before, and the decision does not come from a higher
threshold. -/
theorem evaluate_raised {x y : Double} {e : Evaluation}
    (asking : criteria.Asking rule expected raised before taken after)
    (gte : Operator.ofValue? rule.operator = some .gte)
    (lower : rule.expected.number? = .ok (some x)) (higher : expected.number? = .ok (some y))
    (le : x.le y) (finite : (Score.total (criteria.activeRules.filterMap (·.ownWeight?))).isFinite)
    (proper : ∀ table, criteria.table = some table → table.Proper)
    (came : (criteria.evaluate settings subject).result = .ok e) :
    ∃ e', (raised.evaluate settings subject).result = .ok e' ∧
      (∃ first own own' last, e.results = first ++ own ++ last ∧
        e'.results = first ++ own' ++ last ∧
        Answers subject (before.filter (·.isActive)) first ∧
        Answers subject (taken.filter (·.isActive)) own ∧
        Answers subject (after.filter (·.isActive)) last ∧
        List.Forall₂ RuleResult.FallsTo own own') ∧
      e'.score.le e.score ∧ (e'.passed = true → e.passed = true) ∧
      let table := criteria.table.getD .builtIn
      let fallback := table.fallbackLabel settings.defaultDecision
      e.decision = ((table.reached? e.score).map (·.2)).getD fallback ∧
        e'.decision = ((table.reached? e'.score).map (·.2)).getD fallback ∧
        ∀ entry', table.reached? e'.score = some entry' →
          ∃ entry, table.reached? e.score = some entry ∧ entry'.1.le entry.1 := by
  have fit := asking.returning (exists_evaluate_iff.1 ⟨e, came⟩)
  obtain ⟨e', came'⟩ := exists_evaluate_iff.2 fit
  -- The results of both, side by side.
  have answers := answers_of_evaluate came
  have answers' := answers_of_evaluate came'
  rw [asking.activeRules.1] at answers
  rw [asking.activeRules.2] at answers'
  obtain ⟨front, last, listed, front_answers, back⟩ := answers.of_append
  obtain ⟨first, own, rfl, start, middle⟩ := front_answers.of_append
  obtain ⟨front', last', listed', front_answers', back'⟩ := answers'.of_append
  obtain ⟨first', own', rfl, start', middle'⟩ := front_answers'.of_append
  obtain rfl := start.unique start'
  obtain rfl := back.unique back'
  have falls : List.Forall₂ RuleResult.FallsTo own own' := by
    refine answers_falls (fun other member => ?_) higher le middle middle'
    rw [asking.eq_of_mem_taken other (List.mem_of_mem_filter member)]
    exact ⟨gte, lower⟩
  have whole : List.Forall₂ RuleResult.FallsTo e.results e'.results := by
    have same (results : List RuleResult) : List.Forall₂ RuleResult.FallsTo results results :=
      List.forall₂_same.2 fun r _ => .rfl r
    rw [listed, listed']
    exact List.rel_append (List.rel_append (same first) falls) (same last)
  -- What follows for the score, and from the score.
  have method : raised.methodInForce settings = criteria.methodInForce settings :=
    asking.congr (·.methodInForce settings) fun _ _ _ => rfl
  have threshold : raised.thresholdInForce settings = criteria.thresholdInForce settings :=
    asking.congr (·.thresholdInForce settings) fun _ _ _ => rfl
  have table : raised.table = criteria.table := asking.congr (·.table) fun _ _ _ => rfl
  have score : e'.score.le e.score := by
    rw [score_of_evaluate came, score_of_evaluate came', method]
    exact ScoringMethod.score_le _ whole (nonneg_of_evaluate came) (isFinite_weighed came finite)
  obtain ⟨bar, inForce, passed, decision⟩ := passed_of_evaluate asking.some.1 came
  obtain ⟨bar', inForce', passed', decision'⟩ := passed_of_evaluate asking.some.2 came'
  rw [threshold, inForce] at inForce'
  obtain rfl := Except.ok.inj inForce'
  refine ⟨e', came', ⟨first, own, own', last, listed, listed', start, middle, back, falls⟩, score,
    fun now => ?_, ?_, ?_, fun entry' reached => ?_⟩
  · rw [passed', method] at now
    rw [passed]
    rw [score_of_evaluate came] at score ⊢
    exact ScoringMethod.passes_of_le score now
  · rw [decision, Criteria.decision, DecisionTable.label_eq]
  · rw [decision', Criteria.decision, table, DecisionTable.label_eq]
  · exact DecisionTable.reached?_mono (descends_of_proper proper) score reached

/-- The pairs that a table is made of. -/
def gradePairs : List (Value × Value) := [(.text "90.0", .text "High"), (.int 50, .text "Fair")]

/-- The table of those pairs. -/
def grades : DecisionTable where
  entries := [(.ofNat 90, "High"), (.ofNat 50, "Fair")]

theorem grades_proper : grades.Proper := by
  have entries : DecisionTable.collect [] gradePairs = .ok grades.entries :=
    ok_of_toOption (by decide +kernel)
  have ordered : grades.entries.any (·.1.isNaN) = false := by decide +kernel
  have sorted : DecisionTable.descending grades.entries = grades.entries := by
    rw [DecisionTable.descending, ordered]
    exact List.mergeSort_of_pairwise (by decide +kernel)
  have numbers : ∀ pair ∈ gradePairs, (DecisionTable.threshold pair.1).toOption ≠ some .nan := by
    decide +kernel
  refine ⟨gradePairs, none, ?_, fun pair member nan => ?_⟩
  · rw [DecisionTable.ofPairs, entries]
    change Except.ok (DecisionTable.mk (DecisionTable.descending grades.entries) none) = _
    rw [sorted, grades]
  · exact numbers pair member (congrArg Except.toOption nan)

/-- A rule that asks for some number of years. -/
def tenureRule (years : Value) : Rule where
  ruleId := .text "tenure"
  field := "years"
  operator := .text "gte"
  expected := years

/-- Two rules, of which the second asks for some number of years. -/
def tenured (years : Value) : Criteria where
  criteriaId := .text "tenured"
  rules := [ageRule, tenureRule years]
  table := some grades

/-- The requirements can be met: three years are enough for two, and not for the text `3.5`.  The
score falls from a hundred to fifty, and the decision from the higher threshold to the lower. -/
theorem evaluate_raised_tenured :
    let subject : Value := .map [(.text "age", .int 20), (.text "years", .int 3)]
    ∃ e e', ((tenured (.int 2)).evaluate {} subject).result = .ok e ∧
      ((tenured (.text "3.5")).evaluate {} subject).result = .ok e' ∧
      e'.score.le e.score ∧ (e'.passed = true → e.passed = true) ∧
      e.decision = "High" ∧ e'.decision = "Fair" := by
  intro subject
  have asking : (tenured (.int 2)).Asking (tenureRule (.int 2)) (.text "3.5")
      (tenured (.text "3.5")) [ageRule] [tenureRule (.int 2)] [] :=
    @Asking.ungrouped (tenured (.int 2)) (tenureRule (.int 2)) (.text "3.5") [ageRule] [] rfl rfl
  have gte : Operator.ofValue? (tenureRule (.int 2)).operator = some .gte := by decide +kernel
  have lower : (tenureRule (.int 2)).expected.number? = .ok (some (.ofNat 2)) :=
    ok_of_toOption (by decide +kernel)
  have higher : (Value.text "3.5").number? = .ok (some (.ratio 7 2)) :=
    ok_of_toOption (by decide +kernel)
  have le : Double.le (.ofNat 2) (.ratio 7 2) := by decide +kernel
  have finite : (Score.total ((tenured (.int 2)).activeRules.filterMap (·.ownWeight?))).isFinite := by
    decide +kernel
  have proper : ∀ table, (tenured (.int 2)).table = some table → table.Proper := by
    intro table same
    rw [← Option.some.inj same]
    exact grades_proper
  have passes : ((tenured (.int 2)).evaluate {} subject).result.toOption.map (·.decision) =
      some "High" := by
    decide +kernel
  have raised : ((tenured (.text "3.5")).evaluate {} subject).result.toOption.map (·.decision) =
      some "Fair" := by
    decide +kernel
  obtain ⟨e, came, decision⟩ := exists_ok_of_toOption passes
  obtain ⟨e₂, came₂, decision'⟩ := exists_ok_of_toOption raised
  obtain ⟨e', came', -, score, passed, -⟩ := evaluate_raised asking gte lower higher le finite proper came
  obtain rfl := Except.ok.inj (came₂.symm.trans came')
  exact ⟨e, e₂, came, came₂, score, passed, decision, decision'⟩

end Criteria
end Eligibility
