/-
# The order of groups and rules

Two criteria that differ in the order of their groups, and of the rules inside these, come to the
same but for the order of what they list (`Criteria.evaluate_reordered`).

* A group counts and scores the same, and it passes the same unless it combines its rules by an
  expression, whose letters stand for them in order.
* The groups together pass the same unless an expression is involved.
* The score, whether the criteria passes, and the decision are the same as long as neither order
  rounds a sum of weights (`ScoringMethod.Unrounded`).  Weights on a grid see to that for every
  subject (`Criteria.unrounded_of_onGrid`).

Where a sum is rounded the order may decide: a tenth, two tenths and seven tenths come to one, but
not the other way round (`Criteria.order_decides`).
-/

import Eligibility.Proofs.Combination
import Eligibility.Proofs.Criteria.Returning
import Eligibility.Proofs.Rule.Weight
import Eligibility.Proofs.Score.Unrounded

namespace Eligibility

open Double (zero)

/-! ### Lists in another order -/

/-- The second list holds a counterpart of each item of the first, in any order. -/
def Reorders {α β : Type} (R : α → β → Prop) (xs : List α) (ys : List β) : Prop :=
  ∃ middle, List.Forall₂ R xs middle ∧ middle.Perm ys

namespace Reorders

variable {α β γ δ : Type} {R : α → β → Prop} {xs : List α} {ys : List β}

theorem map_perm {f : α → γ} {g : β → γ} (same : ∀ x ∈ xs, ∀ y, R x y → f x = g y)
    (reorders : Reorders R xs ys) : (xs.map f).Perm (ys.map g) := by
  obtain ⟨middle, each, perm⟩ := reorders
  have maps : xs.map f = middle.map g := by
    rw [← List.forall₂_eq_eq_eq, List.forall₂_map_left_iff, List.forall₂_map_right_iff]
    exact ((List.forall₂_and_left xs middle).2 ⟨fun x member => member, each⟩).imp
      fun x y both => same x both.1 y both.2
  rw [maps]
  exact perm.map g

theorem flatMap_perm {f : α → List γ} {g : β → List γ} (same : ∀ x y, R x y → (f x).Perm (g y))
    (reorders : Reorders R xs ys) : (xs.flatMap f).Perm (ys.flatMap g) := by
  obtain ⟨middle, each, perm⟩ := reorders
  refine List.Perm.trans ?_ (perm.flatMap_right g)
  clear perm
  induction each with
  | nil => exact .nil
  | cons first _ ih =>
    rw [List.flatMap_cons, List.flatMap_cons]
    exact (same _ _ first).append ih

/-- What items come to is reordered with them. -/
theorem exists_outcomes {P : α → γ → Prop} {Q : β → δ → Prop} {S : α × γ → β × δ → Prop}
    (one : ∀ x y c, R x y → P x c → ∃ d, Q y d ∧ S (x, c) (y, d)) {cs : List γ}
    (reorders : Reorders R xs ys) (own : List.Forall₂ P xs cs) :
    ∃ ds, List.Forall₂ Q ys ds ∧ Reorders S (xs.zip cs) (ys.zip ds) := by
  obtain ⟨middle, each, perm⟩ := reorders
  -- The counterparts come to something with the first list in its order.
  obtain ⟨pairs, comes, counterparts⟩ : ∃ pairs,
      List.Forall₂ (fun y (pair : β × δ) => pair.1 = y ∧ Q y pair.2) middle pairs ∧
        List.Forall₂ S (xs.zip cs) pairs := by
    clear perm
    induction each generalizing cs with
    | nil =>
      cases own
      exact ⟨[], .nil, .nil⟩
    | cons first _ ih =>
      obtain _ | ⟨came, more⟩ := own
      obtain ⟨d, came', related⟩ := one _ _ _ first came
      obtain ⟨pairs, comes, counterparts⟩ := ih more
      exact ⟨(_, d) :: pairs, .cons ⟨rfl, came'⟩ comes, .cons related counterparts⟩
  -- Each pair goes where its item goes.
  obtain ⟨moved, comes', shuffled⟩ := List.perm_comp_forall₂ perm.symm comes
  have zipped : ys.zip (moved.map Prod.snd) = moved := by
    clear shuffled perm
    induction comes' with
    | nil => rfl
    | cons first _ ih =>
      obtain ⟨rfl, -⟩ := first
      rw [List.map_cons, List.zip_cons_cons, ih]
  refine ⟨moved.map Prod.snd, ?_, pairs, counterparts, ?_⟩
  · exact List.forall₂_map_right_iff.2 (comes'.imp fun _ _ both => both.2)
  · rw [zipped]
    exact shuffled.symm

end Reorders

/-! ### Groups -/

namespace Group

variable {group group' : Group} {subject : Value} {g g' : GroupResult}

/-- The same group with its rules in another order. -/
def Reordered (group group' : Group) : Prop :=
  ∃ rules, group.rules.Perm rules ∧ group' = { group with rules := rules }

/-- What the results of a group in two orders agree on. -/
structure Agrees (group : Group) (g g' : GroupResult) : Prop where
  groupId : g'.groupId = g.groupId
  results : g.results.Perm g'.results
  score : g'.score = g.score
  passedCount : g'.passedCount = g.passedCount
  effectiveCount : g'.effectiveCount = g.effectiveCount
  passed : ¬Combination.ByExpression group.combination →
    g'.passed = g.passed ∧ g'.error = g.error

theorem Reordered.activeRules (reordered : group.Reordered group') :
    group.activeRules.Perm group'.activeRules := by
  obtain ⟨rules, perm, rfl⟩ := reordered
  exact perm.filter _

/-- **A group comes to the same in any order of its rules.** -/
theorem Reordered.exists_evaluate (reordered : group.Reordered group')
    (came : (group.evaluate subject).result = .ok g) :
    ∃ g', (group'.evaluate subject).result = .ok g' ∧ group.Agrees g g' := by
  obtain ⟨results, answers, summary⟩ := result_evaluate.1 came
  obtain ⟨results', answers', perm⟩ :=
    List.perm_comp_forall₂ reordered.activeRules.symm answers
  obtain ⟨rules, -, rfl⟩ := reordered
  obtain ⟨groupId, named, ended⟩ := bind_eq_ok.1 summary
  obtain rfl := Except.ok.inj ended
  obtain ⟨g', summary'⟩ : ∃ g', summarize { group with rules := rules } results' = .ok g' :=
    exists_summarize ⟨_, requireText_eq_ok.1 named⟩ results'
  refine ⟨g', result_evaluate.2 ⟨results', answers', summary'⟩, ?_⟩
  obtain ⟨groupId', named', ended'⟩ := bind_eq_ok.1 summary'
  obtain rfl := Except.ok.inj ended'
  have counted := effective_perm perm
  refine ⟨Except.ok.inj (named'.symm.trans named), perm.symm, Score.average_perm perm,
    congrArg Int.ofNat (passedCount_perm perm), congrArg Int.ofNat counted.length_eq,
    fun counts => ?_⟩
  have same : combined { group with rules := rules } results' = group.combined results :=
    combine_perm counts (counted.map _) ..
  exact ⟨congrArg Combination.passed same, congrArg Combination.error? same⟩

end Group

/-! ### Criteria -/

namespace Rule

variable {rule : Rule} {subject : Value} {r : RuleResult}

/-- What a result counts is its own weight or nothing. -/
theorem weighed_cases (came : rule.outcome subject = .ok r) :
    r.weighed = rule.ownWeight?.getD zero ∨ r.weighed = zero := by
  rw [(counts_of_outcome came).weighed]
  cases found : rule.verdict? subject with
  | none => exact .inr rfl
  | some verdict => exact .inl (by rw [ownWeight?_of_verdict? found]; rfl)

theorem isWeight_ownWeight? (rule : Rule) : (rule.ownWeight?.getD zero).IsWeight := by
  refine ⟨nonneg_of_ownWeight? rule, ?_⟩
  cases own : rule.ownWeight? with
  | none => rfl
  | some weight => exact isFinite_of_weight? (ownWeight?_eq_some.1 own)

theorem isWeight_weighed (came : rule.outcome subject = .ok r) : r.weighed.IsWeight := by
  rcases weighed_cases came with own | none
  · exact own ▸ isWeight_ownWeight? rule
  · exact none ▸ ⟨Double.zero_le_zero, rfl⟩

end Rule

theorem RuleResult.weighed_of_effective {results : List RuleResult} {r : RuleResult}
    (counts : r ∈ effective results) : r.weighed = r.weight :=
  if_pos (List.mem_filter.1 counts).2

namespace Criteria

variable {criteria criteria' : Criteria} {settings : Settings} {subject : Value} {e e' : Evaluation}

/-- The weights of results that count are weights. -/
theorem isWeight_of_answers {rules : List Rule} {results : List RuleResult}
    (answers : Answers subject rules results) : ∀ r ∈ effective results, r.weight.IsWeight := by
  intro r counts
  rw [← RuleResult.weighed_of_effective counts]
  exact forall_of_forall₂ answers.outcomes.flip (fun _ _ came => Rule.isWeight_weighed came) r
    (List.mem_of_mem_filter counts)

/-! ### Weights on a grid -/

/-- The weights that the active rules can count are multiples of a power of two, and do not come to
more than `2 ^ 53` of it. -/
structure OnGrid (criteria : Criteria) (exponent : Nat) : Prop where
  each : ∀ rule ∈ criteria.activeRules, Double.twoTo exponent ∣ (rule.ownWeight?.getD zero).units
  few : Score.unitsOf (criteria.activeRules.map fun rule => rule.ownWeight?.getD zero) ≤
    Double.twoTo 53 * Double.twoTo exponent
  small : Score.unitsOf (criteria.activeRules.map fun rule => rule.ownWeight?.getD zero) <
    Double.limit

/-- What counts weighs no more than the rules together. -/
theorem unitsOf_effective_le {rules : List Rule} {results : List RuleResult}
    (answers : Answers subject rules results) :
    Score.unitsOf ((effective results).map (·.weight)) ≤
      Score.unitsOf (rules.map fun rule => rule.ownWeight?.getD zero) := by
  have outcomes := answers.outcomes
  clear answers
  induction outcomes with
  | nil => exact le_rfl
  | @cons rule r _ more came _ ih =>
    have own : r.weighed.units ≤ (rule.ownWeight?.getD zero).units := by
      rcases Rule.weighed_cases came with own | none
      · rw [own]
      · rw [none]
        exact Nat.zero_le _
    unfold effective at ih ⊢
    rw [List.filter_cons]
    simp only [Score.unitsOf, List.map_cons, List.sum_cons] at ih ⊢
    split
    · next counts =>
      rw [RuleResult.weighed, if_pos counts] at own
      simp only [List.map_cons, List.sum_cons]
      omega
    · omega

/-- **Weights on a grid are never rounded**, whoever the subject is. -/
theorem unrounded_of_onGrid {exponent : Nat} (grid : criteria.OnGrid exponent)
    (came : (criteria.evaluate settings subject).result = .ok e) (method : ScoringMethod) :
    method.Unrounded e.results := by
  have answers := answers_of_evaluate came
  have bound := unitsOf_effective_le answers
  have each : ∀ r ∈ effective e.results, Double.twoTo exponent ∣ r.weight.units := by
    intro r counts
    rw [← RuleResult.weighed_of_effective counts]
    refine forall_of_forall₂ (P := fun r => Double.twoTo exponent ∣ r.weighed.units)
      ((List.forall₂_and_left _ _).2 ⟨grid.each, answers.outcomes⟩).flip ?_ r
      (List.mem_of_mem_filter counts)
    rintro r rule ⟨own, came⟩
    rcases Rule.weighed_cases came with same | none
    · rwa [same]
    · rw [none]
      exact Nat.dvd_zero _
  have part {some : List RuleResult} (inside : some.Sublist (effective e.results)) :
      Score.Unrounded (some.map (·.weight)) := by
    have less : Score.unitsOf (some.map (·.weight)) ≤
        Score.unitsOf ((effective e.results).map (·.weight)) :=
      ((inside.map _).map _).sum_le_sum (by simp)
    refine Score.unrounded_of_grid exponent ?_ (less.trans (bound.trans grid.few))
      (lt_of_le_of_lt (less.trans bound) grid.small)
    intro w member
    obtain ⟨r, kept, rfl⟩ := List.mem_map.1 member
    exact each r (inside.subset kept)
  cases method with
  | weighted => exact ⟨part (List.Sublist.refl _), part List.filter_sublist⟩
  | sum => exact part List.filter_sublist
  | passFail => trivial
  | average => trivial

/-! ### Evaluations -/

/-- A group and its result, and what stands for them in another order. -/
def Moves (own other : Group × GroupResult) : Prop :=
  own.1.Reordered other.1 ∧ own.1.Agrees own.2 other.2

section Moved

variable {groups groups' : List Group} {results results' : List GroupResult}

/-- **Groups come to the same in any order.** -/
theorem GroupAnswers.exists_reordered (reorders : Reorders Group.Reordered groups groups')
    (answers : GroupAnswers subject groups results) :
    ∃ results', GroupAnswers subject groups' results' ∧
      Reorders Moves (groups.zip results) (groups'.zip results') := by
  refine reorders.exists_outcomes (fun group group' g moved came => ?_) answers
  obtain ⟨g', came', agrees⟩ := moved.exists_evaluate came
  exact ⟨g', came', moved, agrees⟩

variable (answers : GroupAnswers subject groups results)
  (answers' : GroupAnswers subject groups' results')
  (moved : Reorders Moves (groups.zip results) (groups'.zip results'))

include answers answers' moved

theorem results_perm :
    (results.flatMap (·.results)).Perm (results'.flatMap (·.results)) := by
  have listed := moved.flatMap_perm (f := fun own => own.2.results)
    (g := fun other => other.2.results) fun _ _ both => both.2.results
  rwa [← List.flatMap_map Prod.snd, ← List.flatMap_map Prod.snd,
    List.map_snd_zip answers.length_eq.ge, List.map_snd_zip answers'.length_eq.ge] at listed

theorem passed_perm (each : ∀ group ∈ groups, ¬Combination.ByExpression group.combination) :
    (results.map (·.passed)).Perm (results'.map (·.passed)) := by
  have flags := moved.map_perm (f := GroupResult.passed ∘ Prod.snd)
    (g := GroupResult.passed ∘ Prod.snd) fun own member other both =>
      (both.2.passed (each own.1 (List.of_mem_zip member).1)).1.symm
  rwa [← List.map_map, ← List.map_map, List.map_snd_zip answers.length_eq.ge,
    List.map_snd_zip answers'.length_eq.ge] at flags

end Moved

/-- The same criteria with its groups, and the rules inside these, in another order. -/
def Reordered (criteria criteria' : Criteria) : Prop :=
  ∃ groups, Reorders Group.Reordered criteria.groups groups ∧
    criteria' = { criteria with groups := groups }

/-- What the evaluations of a criteria in two orders agree on. -/
structure Agrees (criteria criteria' : Criteria) (settings : Settings) (e e' : Evaluation) :
    Prop where
  answered : e.groups.length = criteria.groups.length
  answered' : e'.groups.length = criteria'.groups.length
  groups : Reorders Moves (criteria.groups.zip e.groups) (criteria'.groups.zip e'.groups)
  failures : e.failures.Perm e'.failures
  combinationPassed : ¬Combination.ByExpression criteria.combination →
    (∀ group ∈ criteria.groups, ¬Combination.ByExpression group.combination) →
    e'.combinationPassed = e.combinationPassed
  score : (criteria.methodInForce settings).value.Unrounded e.results →
    (criteria.methodInForce settings).value.Unrounded e'.results →
    e'.score = e.score ∧ e'.passed = e.passed ∧ e'.decision = e.decision

theorem exists_summarize {id : Option String} (named : criteria.resultId = .ok id)
    (method : ScoringMethod) (threshold : Double) (results : List GroupResult) :
    ∃ e, criteria.summarize settings method threshold results = .ok e := by
  rw [summarize, named]
  exact ⟨_, rfl⟩

theorem agrees_of_summarize {groups : List Group} {results results' : List GroupResult}
    {threshold : Double} (answers : GroupAnswers subject criteria.groups results)
    (answers' : GroupAnswers subject groups results')
    (moved : Reorders Moves (criteria.groups.zip results) (groups.zip results'))
    (summary : criteria.summarize settings (criteria.methodInForce settings).value threshold
      results = .ok e)
    (summary' : ({ criteria with groups := groups } : Criteria).summarize settings
      (criteria.methodInForce settings).value threshold results' = .ok e') :
    criteria.Agrees { criteria with groups := groups } settings e e' := by
  have listed := results_perm answers answers' moved
  obtain ⟨id, -, ended⟩ := bind_eq_ok.1 summary
  obtain rfl := Except.ok.inj ended
  obtain ⟨id', -, ended'⟩ := bind_eq_ok.1 summary'
  obtain rfl := Except.ok.inj ended'
  refine ⟨answers.length_eq.symm, answers'.length_eq.symm, moved, listed.filter _,
    fun counts each => ?_, fun unrounded unrounded' => ?_⟩
  · have same := combine_perm counts (passed_perm answers answers' moved each) criteria.minimum
      criteria.expression
    exact congrArg (fun outcome => some (Combination.passed outcome)) same.symm
  · have same := ScoringMethod.score_perm listed (isWeight_of_answers answers.answers) unrounded
      unrounded'
    exact ⟨same, congrArg (ScoringMethod.passes _ · threshold) same,
      congrArg (criteria.decision settings) same⟩

/-- **The order of groups and rules makes no difference**, except where letters stand for outcomes
in order or a sum of weights is rounded. -/
theorem evaluate_reordered (some : criteria.groups ≠ []) (reordered : criteria.Reordered criteria')
    (came : (criteria.evaluate settings subject).result = .ok e) :
    ∃ e', (criteria'.evaluate settings subject).result = .ok e' ∧
      criteria.Agrees criteria' settings e e' := by
  obtain ⟨_, inForce, threshold, bar, rest⟩ := result_evaluate.1 came
  obtain rfl := Except.ok.inj ((groupsInForce_of_groups rfl some).symm.trans inForce)
  rw [if_neg (by simpa using some)] at rest
  obtain ⟨results, answers, summary⟩ := rest
  obtain ⟨groups, reorders, rfl⟩ := reordered
  obtain ⟨results', answers', moved⟩ := answers.exists_reordered reorders
  have some' : groups ≠ [] := by
    obtain ⟨middle, each, perm⟩ := reorders
    rintro rfl
    obtain rfl := perm.eq_nil
    exact some (List.forall₂_nil_right_iff.1 each)
  obtain ⟨e', summary'⟩ : ∃ e', ({ criteria with groups := groups } : Criteria).summarize settings
      (criteria.methodInForce settings).value threshold results' = .ok e' :=
    exists_summarize (parts_of_summarize summary).1 ..
  refine ⟨e', result_evaluate.2 ⟨groups, groupsInForce_of_groups rfl some', threshold, bar, ?_⟩,
    agrees_of_summarize answers answers' moved summary summary'⟩
  rw [if_neg (by simpa using some')]
  exact ⟨results', answers', summary'⟩

/-- A rule that asks for a member, with a weight. -/
def asksFor (member : String) (weight : Double) : Rule where
  ruleId := .text member
  field := member
  operator := .text "exists"
  weight := .double weight

/-- Criteria of groups that add up the weights of what a subject has. -/
def adding (groups : List (List Rule)) : Criteria where
  criteriaId := .text "adding"
  groups := groups.map fun rules => { groupId := .text "part", rules := rules }
  method := .text "sum"
  threshold := .int 1
  table := some { entries := [(.ofNat 1, "Eligible")] }

/-- The requirements can be met: with the groups and the rules the other way round, the weights one,
two and four of which the first and the last count come to five just the same. -/
theorem evaluate_reordered_adding :
    let criteria := adding [[asksFor "age" (.ofNat 1), asksFor "card" (.ofNat 2)],
      [asksFor "name" (.ofNat 4)]]
    let criteria' := adding [[asksFor "name" (.ofNat 4)],
      [asksFor "card" (.ofNat 2), asksFor "age" (.ofNat 1)]]
    let subject : Value := .map [(.text "age", .int 20), (.text "name", .text "Ada")]
    criteria.groups ≠ [] ∧ criteria.Reordered criteria' ∧
    ∃ e e', (criteria.evaluate {} subject).result = .ok e ∧
      (criteria'.evaluate {} subject).result = .ok e' ∧ criteria.Agrees criteria' {} e e' ∧
      e.score = .ofNat 5 ∧ e'.score = .ofNat 5 ∧ e'.passed = true ∧ e'.decision = "Eligible" := by
  intro criteria criteria' subject
  have some : criteria.groups ≠ [] := by simp [criteria, adding]
  have reordered : criteria.Reordered criteria' := by
    refine ⟨criteria'.groups, ⟨_, ?_, .swap _ _ []⟩, rfl⟩
    exact .cons ⟨_, .swap _ _ [], rfl⟩ (.cons ⟨_, .refl _, rfl⟩ .nil)
  have shape : (criteria.evaluate {} subject).result.toOption.map
      (fun e => (e.score, e.passed, e.decision)) = Option.some (.ofNat 5, true, "Eligible") := by
    decide +kernel
  obtain ⟨e, came, same⟩ := exists_ok_of_toOption shape
  obtain ⟨score, rest⟩ := Prod.mk.inj same
  obtain ⟨passed, decision⟩ := Prod.mk.inj rest
  have grid : criteria.OnGrid 1074 := ⟨by decide +kernel, by decide +kernel, by decide +kernel⟩
  have grid' : criteria'.OnGrid 1074 := ⟨by decide +kernel, by decide +kernel, by decide +kernel⟩
  obtain ⟨e', came', agrees⟩ := evaluate_reordered some reordered came
  obtain ⟨score', passed', decision'⟩ :=
    agrees.score (unrounded_of_onGrid grid came _) (unrounded_of_onGrid grid' came' _)
  exact ⟨some, reordered, e, e', came, came', agrees, score, score'.trans score,
    passed'.trans passed, decision'.trans decision⟩

/-- **Where a sum is rounded, the order may decide.**  A tenth, two tenths and seven tenths come to
one; added up from the other end they come to less, and the subject is rejected. -/
theorem order_decides :
    let tenths (n : Nat) : Double := .ofDecimal false n (-1)
    let criteria := adding [[asksFor "age" (tenths 1), asksFor "card" (tenths 2),
      asksFor "name" (tenths 7)]]
    let criteria' := adding [[asksFor "name" (tenths 7), asksFor "card" (tenths 2),
      asksFor "age" (tenths 1)]]
    let subject : Value := .map [(.text "age", .int 20), (.text "card", .text "gold"),
      (.text "name", .text "Ada")]
    criteria.groups ≠ [] ∧ criteria.Reordered criteria' ∧
    ∃ e e', (criteria.evaluate {} subject).result = .ok e ∧
      (criteria'.evaluate {} subject).result = .ok e' ∧ e'.score ≠ e.score ∧
      e.passed = true ∧ e'.passed = false ∧ e.decision = "Eligible" ∧ e'.decision = "Rejected" := by
  intro tenths criteria criteria' subject
  have reordered : criteria.Reordered criteria' := by
    refine ⟨criteria'.groups, ⟨_, .cons ⟨_, ?_, rfl⟩ .nil, .refl _⟩, rfl⟩
    exact (List.reverse_perm _).symm
  have shape : (criteria.evaluate {} subject).result.toOption.map
      (fun e => (e.score.text, e.passed, e.decision)) = some ("1.0", true, "Eligible") := by
    decide +kernel
  have shape' : (criteria'.evaluate {} subject).result.toOption.map
      (fun e => (e.score.text, e.passed, e.decision)) =
        some ("0.9999999999999999", false, "Rejected") := by
    decide +kernel
  obtain ⟨e, came, same⟩ := exists_ok_of_toOption shape
  obtain ⟨e', came', same'⟩ := exists_ok_of_toOption shape'
  obtain ⟨score, rest⟩ := Prod.mk.inj same
  obtain ⟨score', rest'⟩ := Prod.mk.inj same'
  obtain ⟨passed, decision⟩ := Prod.mk.inj rest
  obtain ⟨passed', decision'⟩ := Prod.mk.inj rest'
  refine ⟨by simp [criteria, adding], reordered, e, e', came, came', fun equal => ?_, passed,
    passed', decision, decision'⟩
  rw [equal, score] at score'
  exact absurd score' (by decide)

end Criteria
end Eligibility
