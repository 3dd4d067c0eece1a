/-
# The weighted score and the weights in a criteria

The weighted score divides the weight that passed by the weight that counts.  Both are sums over
results, and a result need not report the weight of its rule.  In terms of the rules they are sums
over the verdicts: a rule counts its own weight when it is compared
(`Criteria.weighted_score_eq`).

A rule that is not skipped is due to count its own weight however it comes out (`Rule.due?`), so
that one which cannot be evaluated fails the criteria rather than help it.  The score keeps to that
as long as all rules with a weight can be compared (`Rule.Sound`).  A rule that cannot be is left
out of the whole, and a criteria passes that failed before its rule was broken
(`Criteria.passes_once_broken`).
-/

import Eligibility.Proofs.Criteria.Returning
import Eligibility.Proofs.Rule.Weight

namespace Eligibility

open Double (zero)

/-- The share of the weight that passed, where each weight comes with whether it passed. -/
def Score.byWeight (verdicts : List (Double × Bool)) : Double :=
  let whole := total (verdicts.map (·.1))
  if whole.le zero then zero
  else percentage (total ((verdicts.filter (·.2)).map (·.1))) whole

theorem map_eq_map_of_forall₂ {α β γ : Type} {f : α → γ} {g : β → γ} {as : List α} {bs : List β}
    (each : List.Forall₂ (fun a b => g b = f a) as bs) : bs.map g = as.map f := by
  have same : List.Forall₂ Eq (bs.map g) (as.map f) :=
    List.forall₂_map_left_iff.2 (List.forall₂_map_right_iff.2 each.flip)
  rwa [List.forall₂_eq_eq_eq] at same

/-- The weighted score of results that count by verdicts. -/
theorem Score.weighted_eq_byWeight {α : Type} {verdict? : α → Option (Double × Bool)}
    {rules : List α} {results : List RuleResult}
    (counts : List.Forall₂ (fun rule r => Rule.Counts (verdict? rule) r) rules results) :
    weighted results = byWeight (rules.filterMap verdict?) := by
  have weighed : results.map (·.weighed) =
      rules.map fun rule => ((verdict? rule).map (·.1)).getD zero :=
    map_eq_map_of_forall₂ (counts.imp fun _ _ own => own.weighed)
  have earned : results.map (·.earned) =
      rules.map fun rule => (((verdict? rule).filter (·.2)).map (·.1)).getD zero :=
    map_eq_map_of_forall₂ (counts.imp fun _ _ own => own.earned)
  have whole : total ((rules.filterMap verdict?).map (·.1)) = total (results.map (·.weighed)) := by
    rw [weighed, List.map_filterMap, total_filterMap]
  have part : total (((rules.filterMap verdict?).filter (·.2)).map (·.1)) =
      total (results.map (·.earned)) := by
    rw [earned, List.filter_filterMap, List.map_filterMap, total_filterMap]
  simp only [weighted, byWeight, total_effective, total_passed, whole, part]

namespace Rule

variable {rule : Rule} {subject : Value}

/-- The weight that a rule is due to count, with whether it passes: its own, unless the rule is
skipped. -/
def due? (rule : Rule) (subject : Value) : Option (Double × Bool) :=
  match (rule.applies subject).result with
  | .ok false => none
  | _ => rule.ownWeight?.map fun weight => (weight, ((rule.verdict? subject).map (·.2)).getD false)

/-- The conditions of a rule can be tried, and its operator is one. -/
structure Sound (rule : Rule) (subject : Value) : Prop where
  conditions : ∃ applies, (rule.applies subject).result = .ok applies
  operator : ∃ operator, Operator.ofValue? rule.operator = some operator

/-- A sound rule counts what it is due to. -/
theorem verdict?_eq_due? (sound : rule.ownWeight?.isSome → rule.Sound subject) :
    rule.verdict? subject = rule.due? subject := by
  cases own : rule.ownWeight? with
  | none =>
    have uncompared : rule.verdict? subject = none := by
      cases found : rule.verdict? subject with
      | none => rfl
      | some verdict => rw [ownWeight?_of_verdict? found] at own; cases own
    unfold due?
    rw [uncompared, own]
    split <;> rfl
  | some weight =>
    obtain ⟨⟨applies, tried⟩, operator, read⟩ := sound (by rw [own]; rfl)
    have weighs : rule.weight? = .ok (.ok weight) := ownWeight?_eq_some.1 own
    have verdict : rule.verdict? subject =
        if applies then some (weight, rule.passes operator subject) else none := by
      unfold verdict?
      rw [tried, weighs, read]
      cases applies <;> rfl
    unfold due?
    rw [tried, own, verdict]
    cases applies <;> rfl

end Rule

namespace Criteria

variable {criteria : Criteria} {settings : Settings} {subject : Value} {e : Evaluation}

/-- **The weighted score in terms of the rules.**  It is the share of the weight that passed, over
the rules that are compared.  When all rules with a weight can be, that is the share over the rules
that are not skipped. -/
theorem weighted_score_eq (weighted : (criteria.methodInForce settings).value = .weighted)
    (came : (criteria.evaluate settings subject).result = .ok e) :
    e.score = Score.byWeight (criteria.activeRules.filterMap (·.verdict? subject)) ∧
      ((∀ rule ∈ criteria.activeRules, rule.ownWeight?.isSome → rule.Sound subject) →
        e.score = Score.byWeight (criteria.activeRules.filterMap (·.due? subject))) := by
  have compared : e.score = Score.byWeight (criteria.activeRules.filterMap (·.verdict? subject)) := by
    rw [score_of_evaluate came, weighted]
    have outcomes := (answers_of_evaluate came).outcomes
    exact Score.weighted_eq_byWeight (outcomes.imp fun _ _ own => Rule.counts_of_outcome own)
  refine ⟨compared, fun sound => ?_⟩
  have same : criteria.activeRules.filterMap (·.verdict? subject) =
      criteria.activeRules.filterMap (·.due? subject) :=
    List.filterMap_congr fun rule member => Rule.verdict?_eq_due? (sound rule member)
  rw [compared, same]

/-- A criteria of two rules, of which the second has this operator. -/
def entry (operator : String) : Criteria where
  criteriaId := .text "entry"
  rules := [
    { ruleId := .text "age", field := "age", operator := .text ">=", expected := .int 18 },
    { ruleId := .text "member", field := "card", operator := .text operator,
      expected := .text "gold" }]

/-- A subject that is old enough and has another card. -/
def visitor : Value := .map [(.text "age", .int 20), (.text "card", .text "silver")]

/-- The requirements can be met, by a criteria with an operator that is none: the score is that of
the one rule that is compared. -/
theorem weighted_score_eq_entry :
    ((entry "~").methodInForce {}).value = .weighted ∧
    ∃ e, ((entry "~").evaluate {} visitor).result = .ok e ∧
      e.score = Score.byWeight [(.ofNat 1, true)] := by
  have weighted : ((entry "~").methodInForce {}).value = .weighted := by decide +kernel
  have passes : ((entry "~").evaluate {} visitor).result.toOption.map (·.passed) = some true := by
    decide +kernel
  have verdicts : (entry "~").activeRules.filterMap (·.verdict? visitor) = [(.ofNat 1, true)] := by
    decide +kernel
  obtain ⟨e, came, -⟩ := exists_ok_of_toOption passes
  refine ⟨weighted, e, came, ?_⟩
  rw [← verdicts]
  exact (weighted_score_eq weighted came).1

/-- **Breaking a rule can turn failing into passing.**  The second rule is due to count its weight
and does not pass, with its operator as without.  With it the criteria fails, on the score that is
due; without it the criteria passes on a higher one. -/
theorem passes_once_broken :
    (entry "starts_with").activeRules.filterMap (·.due? visitor) =
      [(.ofNat 1, true), (.ofNat 1, false)] ∧
    (entry "~").activeRules.filterMap (·.due? visitor) = [(.ofNat 1, true), (.ofNat 1, false)] ∧
    Score.byWeight [(.ofNat 1, true), (.ofNat 1, false)] = .ofNat 50 ∧
    (∃ e, ((entry "starts_with").evaluate {} visitor).result = .ok e ∧ e.score = .ofNat 50 ∧
      e.passed = false) ∧
    ∃ e, ((entry "~").evaluate {} visitor).result = .ok e ∧ e.score = .ofNat 100 ∧
      e.passed = true := by
  have due : (entry "starts_with").activeRules.filterMap (·.due? visitor) =
      [(.ofNat 1, true), (.ofNat 1, false)] := by
    decide +kernel
  have dueBroken : (entry "~").activeRules.filterMap (·.due? visitor) =
      [(.ofNat 1, true), (.ofNat 1, false)] := by
    decide +kernel
  have share : Score.byWeight [(.ofNat 1, true), (.ofNat 1, false)] = .ofNat 50 := by
    decide +kernel
  have sound : ((entry "starts_with").evaluate {} visitor).result.toOption.map
      (fun e => (e.score, e.passed)) = some (.ofNat 50, false) := by
    decide +kernel
  have broken : ((entry "~").evaluate {} visitor).result.toOption.map
      (fun e => (e.score, e.passed)) = some (.ofNat 100, true) := by
    decide +kernel
  obtain ⟨e, came, same⟩ := exists_ok_of_toOption sound
  obtain ⟨e', came', same'⟩ := exists_ok_of_toOption broken
  obtain ⟨score, failed⟩ := Prod.mk.inj same
  obtain ⟨score', passed⟩ := Prod.mk.inj same'
  exact ⟨due, dueBroken, share, ⟨e, came, score, failed⟩, e', came', score', passed⟩

end Criteria
end Eligibility
