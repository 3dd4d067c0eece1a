/-
# Raising what a rule asks for

A rule that asks for at least some number passes when the actual value is a number that reaches it
(`Operator.compare_gte`).  When it asks for more, everything about its outcome stays but the
expected value that it reports, and that it may not pass any more (`Rule.exists_outcome_raised`).
-/

import Eligibility.Proofs.Rule.Weight

namespace Eligibility

theorem Operator.compare_gte {actual expected : Value} {bound : Double}
    (asked : expected.number? = .ok (some bound)) :
    (Operator.gte.compare actual expected).value =
      match actual.present.number? with
      | .ok (some x) => bound.le x
      | _ => false := by
  have taken : Operator.gte.taken actual = actual.present := rfl
  rw [compare, taken, Comparison.carryOut, Comparison.ordered, asked]
  cases actual.present.number? with
  | error fault => rfl
  | ok number =>
    cases number with
    | none => rfl
    | some x => rfl

/-- **Who reaches a bound reaches every lower one.** -/
theorem Operator.compare_gte_mono {actual low high : Value} {x y : Double}
    (lower : low.number? = .ok (some x)) (higher : high.number? = .ok (some y)) (le : x.le y)
    (passes : (Operator.gte.compare actual high).value = true) :
    (Operator.gte.compare actual low).value = true := by
  rw [compare_gte higher] at passes
  rw [compare_gte lower]
  split at passes
  · exact Double.le_trans le passes
  · cases passes

namespace Rule

variable {rule : Rule} {subject expected : Value} {r : RuleResult}

/-- The rule with another expected value. -/
def asking (rule : Rule) (expected : Value) : Rule := { rule with expected }

theorem failed_asking {actual : Value} {error : String} (came : rule.failed actual error = .ok r) :
    (rule.asking expected).failed actual error = .ok { r with expected } := by
  obtain ⟨ruleId, named, rfl⟩ := named_eq_ok.1 came
  exact named_eq_ok.2 ⟨ruleId, named, rfl⟩

theorem skip_asking (came : rule.skip = .ok r) :
    (rule.asking expected).skip = .ok { r with expected } := by
  obtain ⟨weight, weighs, came⟩ := bind_eq_ok.1 came
  obtain ⟨ruleId, named, rfl⟩ := named_eq_ok.1 came
  have weighs' : (rule.asking expected).weight? = .ok weight := weighs
  exact bind_eq_ok.2 ⟨weight, weighs', named_eq_ok.2 ⟨ruleId, named, rfl⟩⟩

theorem compared_asking {operator : Operator} {weight : Double} {actual : Value} {passed : Bool}
    (came : rule.compared operator weight actual passed = .ok r) (passed' : Bool) :
    (rule.asking expected).compared operator weight actual passed' = .ok { r with
      expected, passed := passed', contribution := if passed' then weight else .zero } := by
  obtain ⟨ruleId, named, rfl⟩ := named_eq_ok.1 came
  exact named_eq_ok.2 ⟨ruleId, named, rfl⟩

/-- **A rule that asks for more** comes to the same but for the expected value, and passes only if
it passed before. -/
theorem exists_outcome_raised {x y : Double} (gte : Operator.ofValue? rule.operator = some .gte)
    (lower : rule.expected.number? = .ok (some x)) (higher : expected.number? = .ok (some y))
    (le : x.le y) (came : rule.outcome subject = .ok r) :
    ∃ r', (rule.asking expected).outcome subject = .ok r' ∧ r.FallsTo r' := by
  have conditions : (rule.asking expected).applies subject = rule.applies subject := rfl
  have weight : (rule.asking expected).weight? = rule.weight? := rfl
  have read : Operator.ofValue rule.operator = .ok .gte := by rw [Operator.ofValue, gte]
  have read' : Operator.ofValue (rule.asking expected).operator = .ok .gte := read
  have mono : (rule.asking expected).passes .gte subject = true → rule.passes .gte subject = true :=
    Operator.compare_gte_mono lower higher le
  unfold outcome at came ⊢
  rw [conditions, weight]
  -- The two rules meet the same checks, so the cases of one are those of the other.
  split at came
  · exact ⟨_, failed_asking came, rfl, id⟩
  · exact ⟨_, failed_asking came, rfl, id⟩
  · exact ⟨_, skip_asking came, rfl, id⟩
  · exact ⟨_, failed_asking came, rfl, id⟩
  · rw [read] at came
    rw [read']
    have passed : r.passed = rule.passes .gte subject := (parts_of_compared came).2.2
    exact ⟨_, compared_asking came _, rfl, fun now => passed.trans (mono now)⟩

end Rule
end Eligibility
