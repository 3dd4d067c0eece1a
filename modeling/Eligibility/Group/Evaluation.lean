/-
# Evaluating a group

The active rules of a group are evaluated in order.  The outcomes that count are combined as
the group says, and the group's score is the share of them that passed.
-/

import Eligibility.Group.Basic
import Eligibility.Rule.Evaluation
import Eligibility.Score

namespace Eligibility
namespace Group

/-- The active rules of a group. -/
def activeRules (group : Group) : List Rule := group.rules.filter (·.isActive)

/-- The outcomes of rules, in order. -/
def outcomes (subject : Value) : List Rule → Trial (List RuleResult)
  | [] => pure []
  | rule :: rest => do
    let result ← rule.checkClosed subject
    return result :: (← outcomes subject rest)

/-- The combined outcome of a group whose rules came out so. -/
def combined (group : Group) (results : List RuleResult) : Except Combination.Fault Bool :=
  combine group.combination ((effective results).map (·.passed)) group.minimum group.expression

/-- The outcome of a group whose rules came out so. -/
def summarize (group : Group) (results : List RuleResult) : Except Failure GroupResult := do
  let outcome := group.combined results
  let groupId ← requireText "group_id" group.groupId
  return {
    groupId := groupId
    name := group.name
    combination := group.combination.display
    passed := Combination.passed outcome
    score := Score.average results
    passedCount := passedCount results
    effectiveCount := (effective results).length
    results := results
    error := Combination.error? outcome }

/-- Evaluate a group. -/
def evaluate (group : Group) (subject : Value) : Trial GroupResult := do
  let results ← outcomes subject group.activeRules
  if (Combination.error? (group.combined results)).isSome then Trial.note .groupCombinationFailed
  Trial.ofExcept (group.summarize results)

end Group
end Eligibility
