/-
# What a rule puts into the weighted score

A rule's own weight counts when the rule is compared.  A skipped rule counts nothing, as it should.
But a rule that could not be compared, because a condition of it cannot be tried or because its
operator is none, fails with the weight zero instead of its own (`Rule.verdict?`,
`Rule.counts_of_outcome`), and so it drops out of the weight that counts just as a skipped one
does.
-/

import Eligibility.Proofs.Rule.Outcome
import Eligibility.Proofs.Score.Order

namespace Eligibility

open Double (zero)

theorem Value.isFinite_of_finite? {x y : Double} (found : finite? x = some y) : y.isFinite := by
  unfold finite? at found
  split at found
  · next finite => rwa [← Option.some.inj found]
  · cases found

/-- A value is taken for a number only when it is finite. -/
theorem Value.isFinite_of_number? {v : Value} {x : Double} (found : v.number? = .ok (some x)) :
    x.isFinite := by
  unfold number? at found
  split at found
  · obtain ⟨y, -, same⟩ := bind_eq_ok.1 found
    exact isFinite_of_finite? (Except.ok.inj same)
  · exact isFinite_of_finite? (Except.ok.inj found)
  · obtain ⟨y, -, same⟩ := bind_eq_ok.1 found
    exact isFinite_of_finite? (Except.ok.inj same)
  · obtain ⟨y, -, same⟩ := Option.bind_eq_some_iff.1 (Except.ok.inj found)
    exact isFinite_of_finite? same
  · cases found

namespace Rule

variable {rule : Rule} {subject : Value} {r : RuleResult} {weight : Double}

/-- The weight of a rule, when it is a finite number that is not negative. -/
def ownWeight? (rule : Rule) : Option Double :=
  match rule.weight? with
  | .ok (.ok weight) => some weight
  | _ => none

theorem ownWeight?_eq_some : rule.ownWeight? = some weight ↔ rule.weight? = .ok (.ok weight) := by
  unfold ownWeight?
  constructor
  · intro found
    split at found
    · next weighs => rw [weighs, Option.some.inj found]
    · cases found
  · intro weighs
    rw [weighs]

/-- The weight of a rule and whether it passes, when it is compared at all. -/
def verdict? (rule : Rule) (subject : Value) : Option (Double × Bool) :=
  match (rule.applies subject).result, rule.weight? with
  | .ok true, .ok (.ok weight) =>
    (Operator.ofValue? rule.operator).map fun operator => (weight, rule.passes operator subject)
  | _, _ => none

theorem nonneg_of_weight? (weighs : rule.weight? = .ok (.ok weight)) : zero.le weight := by
  unfold weight? at weighs
  split at weighs
  · cases weighs
  · cases weighs
  · next x found =>
    have read := Except.ok.inj weighs
    split at read
    · cases read
    · next notBelow =>
      obtain rfl := Except.ok.inj read
      have number := Double.ne_nan_of_isFinite (Value.isFinite_of_number? found)
      rw [Double.le_eq_not_lt number (Double.ne_nan_of_isFinite rfl), Bool.eq_false_iff.2 notBelow]
      rfl

theorem isFinite_of_weight? (weighs : rule.weight? = .ok (.ok weight)) : weight.isFinite := by
  unfold weight? at weighs
  split at weighs
  · cases weighs
  · cases weighs
  · next x found =>
    have read := Except.ok.inj weighs
    split at read
    · cases read
    · obtain rfl := Except.ok.inj read
      exact Value.isFinite_of_number? found

/-! ### The parts of a result -/

theorem parts_of_failed {actual : Value} {error : String} (came : rule.failed actual error = .ok r) :
    r.weight = zero ∧ r.skipped = false ∧ r.passed = false := by
  obtain ⟨ruleId, -, rfl⟩ := named_eq_ok.1 came
  exact ⟨rfl, rfl, rfl⟩

theorem parts_of_skip {weight : Except WeightFault Double} (weighs : rule.weight? = .ok weight)
    (came : rule.skip = .ok r) :
    r.weight = weight.toOption.getD zero ∧ r.skipped = true ∧ r.passed = false := by
  rw [skip, weighs] at came
  obtain ⟨ruleId, -, rfl⟩ :=
    named_eq_ok.1 (show (requireText "rule_id" rule.ruleId >>= _) = .ok r from came)
  exact ⟨rfl, rfl, rfl⟩

theorem parts_of_compared {operator : Operator} {actual : Value} {passed : Bool}
    (came : rule.compared operator weight actual passed = .ok r) :
    r.weight = weight ∧ r.skipped = false ∧ r.passed = passed := by
  obtain ⟨ruleId, -, rfl⟩ := named_eq_ok.1 came
  exact ⟨rfl, rfl, rfl⟩

/-- What a result adds to the two sums of the weighted score, given the verdict of its rule. -/
structure Counts (verdict : Option (Double × Bool)) (r : RuleResult) : Prop where
  nonneg : zero.le r.weight
  weighed : r.weighed = (verdict.map (·.1)).getD zero
  earned : r.earned = ((verdict.filter (·.2)).map (·.1)).getD zero

namespace Counts

theorem of_failed {actual : Value} {error : String} (came : rule.failed actual error = .ok r) :
    Counts none r := by
  obtain ⟨weight, kept, passed⟩ := parts_of_failed came
  refine ⟨weight ▸ Double.zero_le_zero, ?_, ?_⟩
  · simp [RuleResult.weighed, RuleResult.isEffective, kept, weight]
  · simp [RuleResult.earned, passed]

theorem of_skip {weight : Except WeightFault Double} (weighs : rule.weight? = .ok weight)
    (came : rule.skip = .ok r) : Counts none r := by
  obtain ⟨own, skipped, passed⟩ := parts_of_skip weighs came
  refine ⟨?_, ?_, ?_⟩
  · rw [own]
    cases weight with
    | error fault => exact Double.zero_le_zero
    | ok weight => exact nonneg_of_weight? weighs
  · simp [RuleResult.weighed, RuleResult.isEffective, skipped]
  · simp [RuleResult.earned, passed]

theorem of_compared {operator : Operator} {actual : Value} {passed : Bool}
    (weighs : rule.weight? = .ok (.ok weight))
    (came : rule.compared operator weight actual passed = .ok r) :
    Counts (some (weight, passed)) r := by
  obtain ⟨own, kept, same⟩ := parts_of_compared came
  refine ⟨own ▸ nonneg_of_weight? weighs, ?_, ?_⟩
  · simp [RuleResult.weighed, RuleResult.isEffective, kept, own]
  · cases passed with
    | true =>
      simp only [RuleResult.earned, RuleResult.isEffective, kept, same, own]
      rfl
    | false =>
      simp only [RuleResult.earned, same, Bool.and_false]
      rfl

end Counts

/-- **The result of a rule counts by its verdict**: its own weight when it has been compared, and
nothing otherwise. -/
theorem counts_of_outcome (came : rule.outcome subject = .ok r) :
    Counts (rule.verdict? subject) r := by
  unfold outcome at came
  unfold verdict?
  split at came
  · next applies =>
    rw [applies]
    exact .of_failed came
  · next applied _ applies weighs =>
    rw [applies, weighs]
    cases applied <;> exact .of_failed came
  · next applies weighs =>
    rw [applies]
    exact .of_skip weighs came
  · next applies weighs =>
    rw [applies, weighs]
    exact .of_failed came
  · next applies weighs =>
    rw [applies, weighs]
    unfold Operator.ofValue at came
    cases read : Operator.ofValue? rule.operator with
    | none =>
      rw [read] at came
      exact .of_failed came
    | some operator =>
      rw [read] at came
      exact .of_compared weighs came

theorem ownWeight?_of_verdict? {passed : Bool}
    (found : rule.verdict? subject = some (weight, passed)) : rule.ownWeight? = some weight := by
  unfold verdict? at found
  split at found
  · next weighs =>
    obtain ⟨operator, -, same⟩ := Option.map_eq_some_iff.1 found
    obtain ⟨rfl, -⟩ := Prod.mk.inj same
    exact ownWeight?_eq_some.2 weighs
  · cases found

theorem nonneg_of_ownWeight? (rule : Rule) : zero.le (rule.ownWeight?.getD zero) := by
  cases own : rule.ownWeight? with
  | none => exact Double.zero_le_zero
  | some weight => exact nonneg_of_weight? (ownWeight?_eq_some.1 own)

/-- A result never counts more than the weight of its rule. -/
theorem weighed_le_ownWeight? (came : rule.outcome subject = .ok r) :
    Score.Ordered r.weighed (rule.ownWeight?.getD zero) := by
  have nonneg := nonneg_of_ownWeight? rule
  rw [(counts_of_outcome came).weighed]
  cases found : rule.verdict? subject with
  | none => exact ⟨Double.zero_le_zero, nonneg⟩
  | some verdict =>
    rw [ownWeight?_of_verdict? found] at nonneg ⊢
    exact ⟨nonneg, Double.le_refl_of_nonneg nonneg⟩

end Rule
end Eligibility
