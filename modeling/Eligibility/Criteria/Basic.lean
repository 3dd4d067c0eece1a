/-
# Criteria

A criteria is what a subject is evaluated against: groups of rules, or rules that fall into
clusters, a way to combine the groups, a way to score, a threshold and a decision table.  What
it leaves open the settings decide.
-/

import Eligibility.Decision
import Eligibility.Group.Basic

namespace Eligibility

/-- A criteria. -/
structure Criteria where
  criteriaId : Value
  name : Option String := none
  groups : List Group := []
  rules : List Rule := []
  combination : Value := .text Combinator.all.text
  minimum : Value := .null
  expression : Value := .null
  method : Value := .null
  threshold : Value := .null
  table : Option DecisionTable := none

/-- The criteria with another expected value for one of the rules outside its groups. -/
def Criteria.withExpected (criteria : Criteria) (index : Nat) (expected : Value) : Criteria :=
  { criteria with rules := criteria.rules.modify index fun rule => { rule with expected } }

/-- The outcome of a criteria for a subject. -/
structure Evaluation where
  criteriaId : Option String := none
  passed : Bool
  score : Double
  decision : String
  method : Option String := none
  threshold : Option Double := none
  combinationPassed : Option Bool := none
  combinationError : Option String := none
  failures : List RuleResult := []
  groups : List GroupResult := []

end Eligibility
