/-
# Writing results for a store

A store keeps an evaluation as JSON without any space, its members in a fixed order.  Values that
JSON does not have become the nearest thing that it has: tuples and sets become arrays, dates and
decimals texts, and doubles that are no numbers `null`.  A value with no such thing, or a map with
a key that is no text of any kind, leaves the evaluation without a stored form.

| value | stored as |
| --- | --- |
| tuple, set | array |
| date, moment, clock time | text, universal time marked by `Z` |
| decimal | text of its digits |
| bytes | text, when they are UTF-8 |
| infinity, NaN | `null` |
| missing | nothing |
-/

import Eligibility.Criteria.Basic
import Eligibility.Json.Writer
import Eligibility.Lenient
import Eligibility.Value.Written

namespace Eligibility
namespace Record

/-- A double in a stored result. -/
def number (x : Double) : Json := if x.isFinite then .double x else .null

/-- The whole seconds of an offset, a half away from zero. -/
def offsetSeconds (o : Offset) : Int :=
  let seconds : Nat := (o.micros.natAbs + 500000) / 1000000
  if o.micros < 0 then -seconds else seconds

/-- The mark of an offset: `Z` for universal time, else hours and minutes. The sign is that of
the hours. -/
def offsetMark (o : Offset) : String :=
  let seconds := offsetSeconds o
  if seconds = 0 then "Z"
  else
    let minutes := seconds.tdiv 60
    let hours := minutes.tdiv 60
    (if hours < 0 then "-" else "+") ++ Text.padded 10 2 hours.natAbs ++ ":" ++
      Text.padded 10 2 (minutes.tmod 60).natAbs

/-- The mark of an offset, when there is one. -/
def offsetMarkOf (o : Option Offset) : String := (o.map offsetMark).getD ""

/-- A clock time in a stored result. -/
def clockText (c : Clock) (offset : Option Offset) : String := c.isoText ++ offsetMarkOf offset

/-- A moment in a stored result. -/
def momentText (m : Moment) : String := m.date.isoText ++ "T" ++ clockText m.clock m.offset

mutual

/-- The text of a key; the keys in a tuple are joined by commas. -/
def keyText? : Value → Option String
  | .null => some "None"
  | .bool b => some (if b then "true" else "false")
  | .int n => some (toString n)
  | .double x => some (if x.isFinite then x.text else "None")
  | .decimal d => some d.text
  | .text s => some s
  | .bytes data => Lenient.utf8? data
  | .date d => some d.isoText
  | .moment m => some (momentText m)
  | .clock c offset => some (clockText c offset)
  | .tuple items => (keyTexts? items).map fun texts => ",".intercalate texts
  | _ => none

/-- The texts of keys. -/
def keyTexts? : List Value → Option (List String)
  | [] => some []
  | item :: rest => do return (← keyText? item) :: (← keyTexts? rest)

end

mutual

/-- The tree of a value. -/
def tree? : Value → Option Json
  | .null => some .null
  | .missing => none
  | .bool b => some (.bool b)
  | .int n => some (.int n)
  | .double x => some (number x)
  | .decimal d => some (.text d.text)
  | .text s => some (.text s)
  | .bytes data => (Lenient.utf8? data).map .text
  | .date d => some (.text d.isoText)
  | .moment m => some (.text (momentText m))
  | .clock c offset => some (.text (clockText c offset))
  | .list items => (treeItems? items).map .array
  | .tuple items => (treeItems? items).map .array
  | .set items => (treeItems? items).map .array
  | .frozenSet items => (treeItems? items).map .array
  | .map members => (treeMembers? members).map .object

/-- The trees of items. -/
def treeItems? : List Value → Option (List Json)
  | [] => some []
  | item :: rest => do return (← tree? item) :: (← treeItems? rest)

/-- The members of a map. -/
def treeMembers? : List (Value × Value) → Option (List (String × Json))
  | [] => some []
  | (key, value) :: rest => do
    return (← keyText? key, ← tree? value) :: (← treeMembers? rest)

end

/-- A text that may be absent. -/
def textOrNull (s : Option String) : Json := (s.map Json.text).getD .null

end Record

namespace RuleResult

/-- The tree of an outcome. -/
def tree? (r : RuleResult) : Option Json := do
  return .object [("rule_id", .text r.ruleId), ("field", .text r.field),
    ("operator", .text r.operator), ("expected", ← Record.tree? r.expected),
    ("actual", ← Record.tree? r.actual), ("passed", .bool r.passed),
    ("skipped", .bool r.skipped), ("score_contribution", Record.number r.contribution),
    ("weight", Record.number r.weight), ("error", Record.textOrNull r.error),
    ("reason", Record.textOrNull r.reason)]

end RuleResult

namespace GroupResult

/-- The tree of an outcome. -/
def tree? (g : GroupResult) : Option Json := do
  return .object [("group_id", .text g.groupId), ("name", Record.textOrNull g.name),
    ("combination", .text g.combination), ("passed", .bool g.passed),
    ("score", Record.number g.score), ("passed_count", .int g.passedCount),
    ("effective_count", .int g.effectiveCount),
    ("rule_results", .array (← g.results.mapM RuleResult.tree?)),
    ("error", Record.textOrNull g.error)]

end GroupResult

namespace Evaluation

/-- The tree of an evaluation. -/
def tree? (e : Evaluation) : Option Json := do
  return .object [("criteria_id", Record.textOrNull e.criteriaId), ("passed", .bool e.passed),
    ("score", Record.number e.score), ("decision", .text e.decision),
    ("scoring_method", Record.textOrNull e.method),
    ("threshold", (e.threshold.map Record.number).getD .null),
    ("group_combination_passed", (e.combinationPassed.map Json.bool).getD .null),
    ("combination_error", Record.textOrNull e.combinationError),
    ("failed_rules", .array (← e.failures.mapM RuleResult.tree?)),
    ("group_results", .array (← e.groups.mapM GroupResult.tree?))]

/-- The stored form of an evaluation. -/
def stored (e : Evaluation) : Except Failure String :=
  match e.tree? with
  | some tree => .ok tree.plainText
  | none => .error .unwritable

end Evaluation
end Eligibility
