/-
# Reading stored results

A stored text is an evaluation when it is JSON with the members of one.  Members are read
leniently, those that are not known are passed over, and those with a usual value may be absent.
Anything else is no evaluation.
-/

import Eligibility.Criteria.Basic
import Eligibility.Json.Reader
import Eligibility.Lenient
import Eligibility.Value.Equal

namespace Eligibility

namespace Json

mutual

/-- The value that a tree stands for. -/
def toValue : Json → Value
  | .null => .null
  | .bool b => .bool b
  | .int n => .int n
  | .double x => .double x
  | .text s => .text s
  | .array items => .list (toValues items)
  | .object members => Value.mapOf (toMembers members)

/-- The values that trees stand for. -/
def toValues : List Json → List Value
  | [] => []
  | item :: rest => toValue item :: toValues rest

/-- The members that an object stands for. -/
def toMembers : List (String × Json) → List (Value × Value)
  | [] => []
  | (key, item) :: rest => (.text key, toValue item) :: toMembers rest

end

/-- The members of an object. -/
def members? : Json → Option (List (String × Json))
  | .object members => some members
  | _ => none

/-- The items of an array. -/
def items? : Json → Option (List Json)
  | .array items => some items
  | _ => none

end Json

namespace Record

/-- The members of an object that is being read. -/
abbrev Members := List (String × Json)

/-- A field that has to be there. -/
def required? {α : Type} (ms : Members) (name : String) (read : Json → Option α) : Option α :=
  Json.find? ms name >>= read

/-- A field that may be absent. -/
def usual? {α : Type} (ms : Members) (name : String) (usual : α) (read : Json → Option α) :
    Option α :=
  match Json.find? ms name with
  | none => some usual
  | some tree => read tree

/-- What may also be `null`. -/
def nullable? {α : Type} (read : Json → Option α) (tree : Json) : Option (Option α) :=
  match tree with
  | .null => some none
  | tree => (read tree).map some

/-- A text. -/
def text? (tree : Json) : Option String := (Lenient.text tree.toValue).toOption

/-- A boolean. -/
def boolean? (tree : Json) : Option Bool := (Lenient.boolean tree.toValue).toOption

/-- A number. -/
def double? (tree : Json) : Option Double := (Lenient.double tree.toValue).toOption

/-- A whole number. -/
def integer? (tree : Json) : Option Int := (Lenient.integer tree.toValue).toOption

/-- A percentage. -/
def percentage? (tree : Json) : Option Double := do
  let x ← double? tree
  if Double.zero.le x && x.le .hundred then return x else none

/-- Any value. -/
def any? (tree : Json) : Option Value := some tree.toValue

/-- An array whose items are read one by one. -/
def list? {α : Type} (read : Json → Option α) (tree : Json) : Option (List α) := do
  (← tree.items?).mapM read

end Record

open Record

/-- The outcome of a rule that a tree stands for. -/
def RuleResult.ofTree? (tree : Json) : Option RuleResult := do
  let ms ← tree.members?
  return {
    ruleId := ← required? ms "rule_id" text?
    field := ← required? ms "field" text?
    operator := ← required? ms "operator" text?
    expected := ← usual? ms "expected" .null any?
    actual := ← usual? ms "actual" .null any?
    passed := ← required? ms "passed" boolean?
    skipped := ← usual? ms "skipped" false boolean?
    contribution := ← usual? ms "score_contribution" .zero double?
    weight := ← usual? ms "weight" .zero double?
    error := ← usual? ms "error" none (nullable? text?)
    reason := ← usual? ms "reason" none (nullable? text?) }

/-- The outcome of a group that a tree stands for. -/
def GroupResult.ofTree? (tree : Json) : Option GroupResult := do
  let ms ← tree.members?
  return {
    groupId := ← required? ms "group_id" text?
    name := ← usual? ms "name" none (nullable? text?)
    combination := ← required? ms "combination" text?
    passed := ← required? ms "passed" boolean?
    score := ← usual? ms "score" .zero percentage?
    passedCount := ← usual? ms "passed_count" 0 integer?
    effectiveCount := ← usual? ms "effective_count" 0 integer?
    results := ← usual? ms "rule_results" [] (list? RuleResult.ofTree?)
    error := ← usual? ms "error" none (nullable? text?) }

namespace Evaluation

/-- The evaluation that a tree stands for. -/
def ofTree? (tree : Json) : Option Evaluation := do
  let ms ← tree.members?
  return {
    criteriaId := ← usual? ms "criteria_id" none (nullable? text?)
    passed := ← required? ms "passed" boolean?
    score := ← required? ms "score" double?
    decision := ← required? ms "decision" text?
    method := ← usual? ms "scoring_method" none (nullable? text?)
    threshold := ← usual? ms "threshold" none (nullable? double?)
    combinationPassed := ← usual? ms "group_combination_passed" none (nullable? boolean?)
    combinationError := ← usual? ms "combination_error" none (nullable? text?)
    failures := ← usual? ms "failed_rules" [] (list? RuleResult.ofTree?)
    groups := ← usual? ms "group_results" [] (list? GroupResult.ofTree?) }

/-- The evaluation that a stored text stands for. -/
def ofStored? (s : String) : Option Evaluation := Json.ofText? s >>= ofTree?

end Evaluation
end Eligibility
