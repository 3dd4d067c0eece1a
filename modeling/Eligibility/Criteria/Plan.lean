/-
# Plans

How a criteria would be evaluated, without a subject: its groups and rules in order, and the
method, threshold and decision table that would be in force.
-/

import Eligibility.Criteria.Evaluation

namespace Eligibility

/-- A description of an evaluation to come. -/
structure Plan where
  criteriaId : Value
  name : Option String
  combination : Value
  minimum : Value
  expression : Value
  method : ScoringMethod
  threshold : Double
  table : DecisionTable
  fallback : String
  groups : List Group

namespace Plan

/-- All rules of a plan, in order. -/
def rules (plan : Plan) : List Rule := plan.groups.flatMap (·.rules)

/-- The number of rules of a plan. -/
def totalRules (plan : Plan) : Nat := plan.rules.length

/-- The number of rules of a plan that would be evaluated. -/
def activeRules (plan : Plan) : Nat := plan.rules.countP (·.isActive)

end Plan

/-- The plan of a criteria. -/
def Criteria.plan (criteria : Criteria) (settings : Settings) : Trial Plan := do
  let groups ← criteria.groupsInForce
  let table := criteria.table.getD .builtIn
  let method ← Trial.ofNoted (criteria.methodInForce settings)
  let threshold ← criteria.thresholdInForce settings
  return {
    criteriaId := criteria.criteriaId
    name := criteria.name
    combination := criteria.combination
    minimum := criteria.minimum
    expression := criteria.expression
    method := method
    threshold := threshold
    table := table
    fallback := table.fallbackLabel settings.defaultDecision
    groups := groups }

end Eligibility
