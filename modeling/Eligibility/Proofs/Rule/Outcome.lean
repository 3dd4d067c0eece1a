/-
# How a rule comes to its result

A rule whose conditions hold is compared, unless its weight or its operator is none; then it fails.
A rule with a condition that does not hold is skipped.  A condition that cannot be tried and a
weight without a double fail the rule as well, and then the actual value is not reported.

`Rule.outcome` has these six ways side by side, without the events and without the detour over a
failure that is caught.  `Rule.result_checkClosed` says that an evaluation comes to just that, so
no other proof has to look into one.
-/

import Eligibility.Proofs.Criteria.Outcome

namespace Eligibility
namespace Rule

variable {rule : Rule} {subject : Value} {r : RuleResult}

/-- The actual value that a result reports. -/
def reported (rule : Rule) (subject : Value) : Value := (Field.resolve subject rule.field).present

/-- Whether the comparison of a rule passes. -/
def passes (rule : Rule) (operator : Operator) (subject : Value) : Bool :=
  (operator.compare (Field.resolve subject rule.field) rule.expected).value

/-- What a rule comes to. -/
def outcome (rule : Rule) (subject : Value) : Except Failure RuleResult :=
  match (rule.applies subject).result, rule.weight? with
  | .error failure, _ => rule.failed .null failure.message
  | .ok _, .error failure => rule.failed .null failure.message
  | .ok false, .ok _ => rule.skip
  | .ok true, .ok (.error fault) => rule.failed (rule.reported subject) fault.message
  | .ok true, .ok (.ok weight) =>
    match Operator.ofValue rule.operator with
    | .error failure => rule.failed (rule.reported subject) failure.message
    | .ok operator =>
      rule.compared operator weight (rule.reported subject) (rule.passes operator subject)

/-! ### The steps of an evaluation -/

/-- What is made of the outcome of a check: a failure becomes a failed result. -/
def rescue (rule : Rule) : Except Failure RuleResult → Except Failure RuleResult
  | .ok r => .ok r
  | .error failure => rule.failed .null failure.message

theorem result_rescue :
    (rule.checkClosed subject).result = rule.rescue (rule.check subject).result := by
  rw [checkClosed, Trial.result_bind, Trial.result_ofNoted, Trial.value_attempt]
  cases (rule.check subject).result with
  | ok r => rfl
  | error failure => rfl

theorem result_check :
    (rule.check subject).result = (rule.applies subject).result >>= fun applies =>
      if applies then (rule.evaluate subject).result else rule.skip := by
  rw [check, Trial.result_bind]
  congr 1
  funext applies
  cases applies with
  | true => rfl
  | false => rfl

/-- What is built from the name of a rule alone needs no rescue: without a name there is no failed
result either, and for the same reason. -/
theorem rescue_named (build : String → RuleResult) :
    rule.rescue (requireText "rule_id" rule.ruleId >>= fun ruleId => .ok (build ruleId)) =
      requireText "rule_id" rule.ruleId >>= fun ruleId => .ok (build ruleId) := by
  cases named : requireText "rule_id" rule.ruleId with
  | ok ruleId => rfl
  | error failure =>
    change rule.failed .null failure.message = _
    rw [failed, named]
    rfl

theorem rescue_failed (actual : Value) (error : String) :
    rule.rescue (rule.failed actual error) = rule.failed actual error :=
  rescue_named _

theorem rescue_compared (operator : Operator) (weight : Double) (actual : Value) (passed : Bool) :
    rule.rescue (rule.compared operator weight actual passed) =
      rule.compared operator weight actual passed :=
  rescue_named _

theorem rescue_skip {weight : Except WeightFault Double} (weighs : rule.weight? = .ok weight) :
    rule.rescue rule.skip = rule.skip := by
  rw [skip, weighs]
  exact rescue_named _

/-- **A rule comes to its outcome.** -/
theorem result_checkClosed : (rule.checkClosed subject).result = rule.outcome subject := by
  rw [result_rescue, result_check, outcome]
  cases (rule.applies subject).result with
  | error failure => rfl
  | ok applies =>
    cases applies with
    | false =>
      change rule.rescue rule.skip = _
      cases weighs : rule.weight? with
      | error failure =>
        rw [skip, weighs]
        rfl
      | ok weight => exact rescue_skip weighs
    | true =>
      change rule.rescue (rule.evaluate subject).result = _
      rw [evaluate, Trial.result_bind, Trial.result_ofExcept]
      cases rule.weight? with
      | error failure => rfl
      | ok weight =>
        cases weight with
        | error fault => exact rescue_failed ..
        | ok weight =>
          change rule.rescue (Trial.result (match Operator.ofValue rule.operator with
            | .error _ => _ | .ok _ => _)) = _
          cases Operator.ofValue rule.operator with
          | error failure => exact rescue_failed ..
          | ok operator => exact rescue_compared ..

/-! ### What a result rests on -/

/-- The three ways in which a result is built, with what each rests on. -/
inductive Built (rule : Rule) (subject : Value) (r : RuleResult) : Prop
  | failed {actual : Value} {error : String} (came : rule.failed actual error = .ok r) :
      Built rule subject r
  | skipped {weight : Except WeightFault Double} (weighs : rule.weight? = .ok weight)
      (came : rule.skip = .ok r) : Built rule subject r
  | compared {operator : Operator} {weight : Double} (weighs : rule.weight? = .ok (.ok weight))
      (came : rule.compared operator weight (rule.reported subject)
        (rule.passes operator subject) = .ok r) : Built rule subject r

theorem built_of_outcome (came : rule.outcome subject = .ok r) : rule.Built subject r := by
  unfold outcome at came
  split at came
  · exact .failed came
  · exact .failed came
  · next weighs => exact .skipped weighs came
  · exact .failed came
  · next weighs =>
    split at came
    · exact .failed came
    · exact .compared weighs came

theorem isText_of_outcome (came : rule.outcome subject = .ok r) : rule.ruleId.IsText := by
  have named {build : String → Except Failure RuleResult}
      (came : (requireText "rule_id" rule.ruleId >>= build) = .ok r) : rule.ruleId.IsText := by
    obtain ⟨ruleId, found, -⟩ := bind_eq_ok.1 came
    exact ⟨ruleId, requireText_eq_ok.1 found⟩
  cases built_of_outcome came with
  | failed came => exact named came
  | skipped _ came =>
    obtain ⟨weight, -, came⟩ := bind_eq_ok.1 came
    exact named came
  | compared _ came => exact named came

end Rule

/-- Results are the outcomes of their rules. -/
theorem Answers.outcomes {subject : Value} {rules : List Rule} {results : List RuleResult}
    (answers : Answers subject rules results) :
    List.Forall₂ (fun rule r => rule.outcome subject = .ok r) rules results :=
  answers.imp fun _ _ came => Rule.result_checkClosed.symm.trans came

end Eligibility
