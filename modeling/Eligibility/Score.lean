/-
# Scores

Four ways to turn the outcomes of rules into a score: the share of the weight that passed, all
or nothing, the weight that passed, and the share of the rules that passed.  Shares are
percentages with two places.  Skipped rules do not count.
-/

import Eligibility.Failure
import Eligibility.Rule.Basic
import Eligibility.Text.Blank
import Eligibility.Text.Case

namespace Eligibility

/-- A way to score. -/
inductive ScoringMethod where
  | weighted
  | passFail
  | sum
  | average
  deriving DecidableEq

namespace ScoringMethod

/-- Every method, in the order of their listing. -/
def all : List ScoringMethod := [weighted, passFail, sum, average]

/-- The word for a method. -/
def text : ScoringMethod → String
  | weighted => "weighted"
  | passFail => "pass_fail"
  | sum => "sum"
  | average => "average"

/-- Further spellings. -/
def aliases : List (String × ScoringMethod) := [("percentage", average), ("binary", passFail)]

/-- The method that a text spells, in any casing, with surrounding space, and with hyphens or
slashes for low lines. -/
def ofText? (s : String) : Option ScoringMethod :=
  let key := (Text.lowerAscii (Text.trim s)).map fun c => if c = '-' || c = '/' then '_' else c
  match all.find? (·.text == key) with
  | some found => some found
  | none => (aliases.find? (·.1 == key)).map (·.2)

/-- The method that a value spells: only a text spells one. -/
def ofValue? (v : Value) : Option ScoringMethod := v.asText? >>= ofText?

end ScoringMethod

namespace Score

/-- The sum of numbers from left to right, rounded at every step. -/
def total (weights : List Double) : Double := weights.foldl (· + ·) Double.zero

/-- A quotient as a percentage with two places. -/
def percent (quotient : Double) : Double := (quotient * Double.hundred).roundPlaces 2

/-- A part of a whole as a percentage with two places. -/
def percentage (part whole : Double) : Double := percent (part / whole)

/-- The share of the weight that passed; nothing when the weights come to nothing. -/
def weighted (results : List RuleResult) : Double :=
  let counted := effective results
  let whole := total (counted.map (·.weight))
  if whole.le .zero then .zero
  else percentage (total ((counted.filter (·.passed)).map (·.weight))) whole

/-- A hundred when every rule passed and there is one, else nothing. -/
def passFail (results : List RuleResult) : Double :=
  let counted := effective results
  if counted.isEmpty then .zero
  else if counted.all (·.passed) then .hundred
  else .zero

/-- The weight that passed. -/
def sum (results : List RuleResult) : Double :=
  total (((effective results).filter (·.passed)).map (·.weight))

/-- The share of a number of rules. However many there are, it is rounded once. -/
def share (passed counted : Nat) : Double :=
  if counted = 0 then .zero else percent (.ratio passed counted)

/-- The share of the rules that passed. -/
def average (results : List RuleResult) : Double :=
  share (passedCount results) (effective results).length

end Score

namespace ScoringMethod

/-- The score of outcomes. -/
def score : ScoringMethod → List RuleResult → Double
  | weighted => Score.weighted
  | passFail => Score.passFail
  | sum => Score.sum
  | average => Score.average

/-- Whether a score passes: a perfect one where all or nothing counts, else one that reaches the
threshold. -/
def passes (method : ScoringMethod) (score threshold : Double) : Bool :=
  match method with
  | passFail => score.eq .hundred
  | _ => threshold.le score

end ScoringMethod
end Eligibility
