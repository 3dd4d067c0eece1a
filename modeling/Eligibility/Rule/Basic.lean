/-
# Rules

A rule compares one field of a subject with an expected value.  It may depend on conditions: a
rule whose conditions do not all hold does not apply.  What callers supply is kept as they
supplied it, so an operator or a weight may turn out to be none; the evaluation reports that.
-/

import Eligibility.Value.Basic

namespace Eligibility

/-- A condition that a rule depends on. -/
structure Condition where
  field : String
  operator : Value
  expected : Value := .null

/-- A rule. `tag` groups rules that stand outside groups. -/
structure Rule where
  ruleId : Value
  field : String
  operator : Value
  expected : Value := .null
  weight : Value := .double (.ofNat 1)
  dependencies : List Condition := []
  active : Value := .bool true
  name : Option String := none
  tag : Value := .null

namespace Rule

/-- Whether a rule takes part in evaluations. -/
def isActive (rule : Rule) : Bool := rule.active.isTruthy

end Rule

/-- The outcome of a rule for a subject. -/
structure RuleResult where
  ruleId : String
  field : String
  operator : String
  expected : Value := .null
  actual : Value := .null
  passed : Bool
  skipped : Bool := false
  contribution : Double := .zero
  weight : Double := .zero
  error : Option String := none
  reason : Option String := none

namespace RuleResult

/-- Whether the outcome counts: skipped rules do not. -/
def isEffective (result : RuleResult) : Bool := !result.skipped

/-- Whether the rule applied and did not pass. -/
def isFailure (result : RuleResult) : Bool := !result.passed && !result.skipped

end RuleResult

/-- The outcomes that count. -/
def effective (results : List RuleResult) : List RuleResult := results.filter (·.isEffective)

/-- The number of outcomes that count and passed. -/
def passedCount (results : List RuleResult) : Nat := (effective results).countP (·.passed)

end Eligibility
