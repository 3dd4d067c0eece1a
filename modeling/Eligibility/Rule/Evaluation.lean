/-
# Evaluating a rule

A rule whose conditions do not all hold is skipped.  Otherwise its weight and its operator are
checked, and a rule that is not set up properly fails with the reason; a proper one passes when
its comparison does, and then contributes its weight.

A result is a record, and its rule's identifier has to be a text.
-/

import Eligibility.Comparison
import Eligibility.Field
import Eligibility.Rule.Basic

namespace Eligibility

/-- A text for a field of a record. -/
def requireText (field : String) (v : Value) : Except Failure String :=
  match v with
  | .text s => .ok s
  | _ => .error (.misfits [⟨field, .notText⟩])

/-- What is wrong with a weight. -/
inductive WeightFault where
  | notNumeric (shown : String)
  | negative (weight : Double)

/-- The wording of a fault. -/
def WeightFault.message : WeightFault → String
  | notNumeric shown => "Invalid rule weight: " ++ shown
  | negative weight => "Rule weight must be >= 0, got " ++ weight.text

namespace Rule

/-- The weight of a rule: a finite number that is not negative. The outer failure is a number
without a double. -/
def weight? (rule : Rule) : Except Failure (Except WeightFault Double) :=
  match rule.weight.number? with
  | .error fault => .error (.number fault)
  | .ok none => .ok (.error (.notNumeric rule.weight.quoted))
  | .ok (some weight) =>
    .ok (if weight.lt .zero then .error (.negative weight) else .ok weight)

/-- Whether every condition of a rule holds. Conditions are tried in order up to the first that
does not hold. -/
def conditionsHold (subject : Value) : List Condition → Trial Bool
  | [] => pure true
  | condition :: rest => do
    let actual := Field.resolve subject condition.field
    if ← compareBy condition.operator actual condition.expected then conditionsHold subject rest
    else return false

/-- Whether a rule applies to a subject. -/
def applies (rule : Rule) (subject : Value) : Trial Bool :=
  conditionsHold subject rule.dependencies

/-- The reason given for a rule that does not apply. -/
def notApplicable : String := "Dependency not met"

/-- The outcome of a rule that does not apply. A weight that is none counts as zero. -/
def skip (rule : Rule) : Except Failure RuleResult := do
  let weight ← rule.weight?
  let ruleId ← requireText "rule_id" rule.ruleId
  return {
    ruleId := ruleId
    field := rule.field
    operator := rule.operator.display
    expected := rule.expected
    passed := false
    skipped := true
    weight := (weight.toOption).getD .zero
    reason := some notApplicable }

/-- The outcome of a rule that could not be evaluated. -/
def failed (rule : Rule) (actual : Value) (error : String) : Except Failure RuleResult := do
  let ruleId ← requireText "rule_id" rule.ruleId
  return {
    ruleId := ruleId
    field := rule.field
    operator := rule.operator.display
    expected := rule.expected
    actual := actual
    passed := false
    error := some error }

/-- The outcome of a rule that is not set up properly. -/
def misconfigured (rule : Rule) (actual : Value) (error : String) : Trial RuleResult := do
  Trial.note .ruleMisconfigured
  Trial.ofExcept (rule.failed actual error)

/-- The outcome of a comparison. -/
def compared (rule : Rule) (operator : Operator) (weight : Double) (actual : Value)
    (passed : Bool) : Except Failure RuleResult := do
  let ruleId ← requireText "rule_id" rule.ruleId
  return {
    ruleId := ruleId
    field := rule.field
    operator := operator.symbol
    expected := rule.expected
    actual := actual
    passed := passed
    contribution := if passed then weight else .zero
    weight := weight }

/-- Evaluate a rule that applies. -/
def evaluate (rule : Rule) (subject : Value) : Trial RuleResult := do
  let actual := Field.resolve subject rule.field
  match ← Trial.ofExcept rule.weight? with
  | .error fault => rule.misconfigured actual.present fault.message
  | .ok weight =>
    match Operator.ofValue rule.operator with
    | .error failure => rule.misconfigured actual.present failure.message
    | .ok operator =>
      let passed ← Trial.ofNoted (operator.compare actual rule.expected)
      Trial.ofExcept (rule.compared operator weight actual.present passed)

/-- Evaluate a rule, or skip it when it does not apply. -/
def check (rule : Rule) (subject : Value) : Trial RuleResult := do
  if ← rule.applies subject then rule.evaluate subject
  else
    Trial.note .ruleSkipped
    Trial.ofExcept rule.skip

/-- The outcome of a rule in its group: whatever goes wrong fails the rule alone. -/
def checkClosed (rule : Rule) (subject : Value) : Trial RuleResult := do
  match ← Trial.ofNoted (rule.check subject).attempt with
  | .ok result => return result
  | .error failure =>
    Trial.note .ruleFailed
    Trial.ofExcept (rule.failed .null failure.message)

end Rule
end Eligibility
