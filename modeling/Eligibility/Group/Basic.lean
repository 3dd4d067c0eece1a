/-
# Groups of rules

A group's rules are evaluated in order and their outcomes combined.
-/

import Eligibility.Combination
import Eligibility.Rule.Basic

namespace Eligibility

/-- A group of rules. -/
structure Group where
  groupId : Value
  name : Option String := none
  combination : Value := .text Combinator.all.text
  minimum : Value := .null
  expression : Value := .null
  weight : Value := .double (.ofNat 1)
  rules : List Rule := []

/-- The outcome of a group for a subject. -/
structure GroupResult where
  groupId : String
  name : Option String := none
  combination : String
  passed : Bool
  score : Double := .zero
  passedCount : Int := 0
  effectiveCount : Int := 0
  results : List RuleResult := []
  error : Option String := none

end Eligibility
