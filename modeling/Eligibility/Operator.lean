/-
# Operators

The comparisons that a rule can ask for.  An operator is written by its symbol or its name, in
any casing and with surrounding space, or by one of a few other spellings.
-/

import Eligibility.Value.Written
import Eligibility.Text.Blank
import Eligibility.Text.Case

namespace Eligibility

/-- A comparison. -/
inductive Operator where
  | eq
  | neq
  | gt
  | gte
  | lt
  | lte
  | among
  | notAmong
  | between
  | notBetween
  | empty
  | notEmpty
  | present
  | absent
  | startsWith
  | endsWith
  | contains
  | matching
  | before
  | after
  | dateBetween
  deriving DecidableEq

namespace Operator

/-- Every operator, in the order of their listing. -/
def all : List Operator :=
  [eq, neq, gt, gte, lt, lte, among, notAmong, between, notBetween, empty, notEmpty, present,
    absent, startsWith, endsWith, contains, matching, before, after, dateBetween]

/-- The symbol of an operator. -/
def symbol : Operator → String
  | eq => "=="
  | neq => "!="
  | gt => ">"
  | gte => ">="
  | lt => "<"
  | lte => "<="
  | among => "in"
  | notAmong => "not_in"
  | between => "between"
  | notBetween => "not_between"
  | empty => "empty"
  | notEmpty => "not_empty"
  | present => "exists"
  | absent => "not_exists"
  | startsWith => "starts_with"
  | endsWith => "ends_with"
  | contains => "contains"
  | matching => "regex"
  | before => "before"
  | after => "after"
  | dateBetween => "date_between"

/-- The name of an operator, in lower case. -/
def name : Operator → String
  | eq => "eq"
  | neq => "neq"
  | gt => "gt"
  | gte => "gte"
  | lt => "lt"
  | lte => "lte"
  | op => op.symbol

/-- Further spellings. -/
def aliases : List (String × Operator) :=
  [("=", eq), ("equals", eq), ("<>", neq), ("not_equals", neq), ("greater_than", gt),
    ("greater_than_or_equal", gte), ("less_than", lt), ("less_than_or_equal", lte),
    ("is_empty", empty), ("is_not_empty", notEmpty), ("matches", matching)]

/-- The operator that a text spells. -/
def ofText? (s : String) : Option Operator :=
  let key := Text.lowerAscii (Text.trim s)
  match all.find? fun op => op.symbol == key || op.name == key with
  | some op => some op
  | none => (aliases.find? (·.1 == key)).map (·.2)

/-- The operator that a value spells: only a text spells one. -/
def ofValue? (v : Value) : Option Operator := v.asText? >>= ofText?

theorem ofText?_symbol (op : Operator) : ofText? op.symbol = some op := by
  cases op <;> decide +kernel

end Operator
end Eligibility
