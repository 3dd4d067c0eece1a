/-
# Reports

What a caller is told about a failure of one of the families: its code, its wording and its
details, and the evaluation that it arose in.
-/

import Eligibility.Failure
import Eligibility.Log.Context

namespace Eligibility

/-- A report of a failure. -/
structure Report where
  evaluationId : Option String := none
  code : String
  message : String
  details : List (String × Value) := []

namespace Failure.Family

/-- The wording of a failure that is reported without one. -/
def usualMessage : Failure.Family → String
  | configuration => "Invalid configuration"
  | validation => "Validation failed"
  | criteriaNotFound => "Criteria not found"
  | store => "Cache backend error"
  | expression => "Invalid boolean expression"

end Failure.Family

namespace Report

/-- The report of a failure of a family. -/
def ofFamily (context : LogContext) (family : Failure.Family) (message? : Option String)
    (details : List (String × Value)) : Report :=
  ⟨context.evaluationId, family.code, message?.getD family.usualMessage, details⟩

/-- The report of a failure of a store, whose name comes first. -/
def ofStore (context : LogContext) (store : String) (message? : Option String)
    (details : List (String × Value)) : Report :=
  let message := message?.getD Failure.Family.store.usualMessage
  ofFamily context .store (some (store ++ ": " ++ message)) details

/-- The report of a failure that belongs to a family. -/
def ofFailure? (context : LogContext) (failure : Failure) : Option Report :=
  failure.family?.map fun family =>
    ofFamily context family (some failure.message) failure.details

end Report
end Eligibility
