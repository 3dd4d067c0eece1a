/-
# Evaluating a criteria

The groups of a criteria are evaluated in order.  Their outcomes are combined, which is reported
but decides nothing; the score over all rules decides whether the criteria passes, and its label
is the decision.
-/

import Eligibility.Criteria.Basic
import Eligibility.Group.Cluster
import Eligibility.Group.Evaluation
import Eligibility.Settings.Basic

namespace Eligibility
namespace Criteria

/-- The groups to evaluate: those of the criteria or, when it has none, the clusters of its
rules. -/
def groupsInForce (criteria : Criteria) : Trial (List Group) :=
  if criteria.groups.isEmpty then Cluster.ofRules criteria.rules
  else do
    unless criteria.rules.isEmpty do Trial.note (.rulesIgnored criteria.rules.length)
    return criteria.groups

/-- The scoring method: that of the criteria, or else the one in the settings. One that cannot
be read is taken for the weighted one. -/
def methodInForce (criteria : Criteria) (settings : Settings) : Noted ScoringMethod :=
  let given := if criteria.method.isNull then .text settings.scoringMethod else criteria.method
  match ScoringMethod.ofValue? given with
  | some method => return method
  | none => do
    Noted.note .unknownMethod
    return .weighted

/-- The threshold: that of the criteria, or else the one in the settings, which also stands in
for one that is no number. -/
def thresholdInForce (criteria : Criteria) (settings : Settings) : Trial Double :=
  if criteria.threshold.isNull then return settings.passThreshold
  else
    match criteria.threshold.asDouble? with
    | .ok (some x) => return x
    | .error .integerTooLarge => throw (.number .integerTooLarge)
    | _ => do
      Trial.note .badThreshold
      return settings.passThreshold

/-- The identifier of a criteria in a result: a text, or none. -/
def resultId (criteria : Criteria) : Except Failure (Option String) :=
  match criteria.criteriaId with
  | .null => .ok none
  | v => some <$> requireText "criteria_id" v

/-- The outcomes of groups, in order. -/
def outcomes (subject : Value) : List Group → Trial (List GroupResult)
  | [] => pure []
  | group :: rest => do
    let result ← group.evaluate subject
    return result :: (← outcomes subject rest)

/-- The combined outcome of groups. -/
def combined (criteria : Criteria) (groups : List GroupResult) : Except Combination.Fault Bool :=
  combine criteria.combination (groups.map (·.passed)) criteria.minimum criteria.expression

/-- The decision about a score. -/
def decision (criteria : Criteria) (settings : Settings) (score : Double) : String :=
  (criteria.table.getD .builtIn).label settings.defaultDecision score

/-- The outcome of a criteria without rules. -/
def vacuous (criteria : Criteria) (settings : Settings) (method : ScoringMethod)
    (threshold : Double) : Except Failure Evaluation := do
  return {
    criteriaId := ← criteria.resultId
    passed := false
    score := .zero
    decision := settings.defaultDecision
    method := some method.text
    threshold := some threshold
    combinationPassed := some false }

/-- The outcome of a criteria whose groups came out so. -/
def summarize (criteria : Criteria) (settings : Settings) (method : ScoringMethod)
    (threshold : Double) (groups : List GroupResult) : Except Failure Evaluation := do
  let results := groups.flatMap (·.results)
  let outcome := criteria.combined groups
  let score := method.score results
  return {
    criteriaId := ← criteria.resultId
    passed := method.passes score threshold
    score := score
    decision := criteria.decision settings score
    method := some method.text
    threshold := some threshold
    combinationPassed := some (Combination.passed outcome)
    combinationError := Combination.error? outcome
    failures := results.filter (·.isFailure)
    groups := groups }

/-- Evaluate a criteria for a subject. -/
def evaluate (criteria : Criteria) (settings : Settings) (subject : Value) : Trial Evaluation := do
  let groups ← criteria.groupsInForce
  let method ← Trial.ofNoted (criteria.methodInForce settings)
  let threshold ← criteria.thresholdInForce settings
  if groups.isEmpty then
    Trial.note .noRules
    Trial.ofExcept (criteria.vacuous settings method threshold)
  else
    let results ← outcomes subject groups
    if (Combination.error? (criteria.combined results)).isSome then
      Trial.note .combinationFailed
    let evaluation ← Trial.ofExcept (criteria.summarize settings method threshold results)
    Trial.note .evaluated
    return evaluation

end Criteria
end Eligibility
