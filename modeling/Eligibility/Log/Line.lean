/-
# Log lines

An event that reaches the threshold becomes a line: its own fields, its text, its logger and its
level, and what the context traces it to.  The context's evaluation wins over a field of that
name, the context's criteria does not.  A logger with a dotted name belongs to the service that
the name starts with.
-/

import Eligibility.Event
import Eligibility.Failure
import Eligibility.Keyed
import Eligibility.Log.Context
import Eligibility.Text.Case

namespace Eligibility

namespace Log

/-- The names of thresholds, each with the number of the lowest level that passes. -/
def thresholds : List (String × Nat) :=
  [("CRITICAL", 50), ("FATAL", 50), ("ERROR", 40), ("WARNING", 30), ("WARN", 30), ("INFO", 20),
    ("DEBUG", 10), ("NOTSET", 0)]

/-- The threshold that a text names in any casing. -/
def threshold (name : String) : Except Failure Nat :=
  let key := Text.upper name
  match thresholds.find? (·.1 == key) with
  | some (_, number) => .ok number
  | none => .error (.unknownLevel key)

/-- The service that a logger belongs to: what its dotted name starts with. -/
def service? (logger : String) : Option String :=
  if logger.toList.contains '.' then
    some (String.ofList (logger.toList.takeWhile (· != '.')))
  else none

/-- Put a member into a line, when there is one. -/
def addSome (members : Keyed String Value) (key : String) (v : Option Value) :
    Keyed String Value :=
  match v with
  | some v => members.insert key v
  | none => members

/-- The evaluation that a line is traced to; an empty identifier traces to none. -/
def evaluation? (context : LogContext) : Option Value :=
  match context.evaluationId with
  | some id => if id.isEmpty then none else some (.text id)
  | none => none

/-- The members of the line for an event, without the time; none below the threshold. -/
def line (threshold : Nat) (context : LogContext) (logger : String) (level : Level) (event : String)
    (fields : List (String × Value)) : Option (Keyed String Value) :=
  if level.number < threshold then none
  else
    let own := (Keyed.ofList fields).erase "timestamp"
    let named := ((own.insert "event" (.text event)).insert "logger" (.text logger)).insert "level"
      (.text level.text)
    let served := addSome named "service" ((service? logger).map .text)
    let traced := addSome served "evaluation_id" (evaluation? context)
    some (if traced.contains "criteria_id" then traced
      else addSome traced "criteria_id" context.criteriaId)

end Log
end Eligibility
