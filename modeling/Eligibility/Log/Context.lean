/-
# Log context

While a criteria is evaluated, every log line can be traced to the evaluation by its identifier
and to the criteria by its own.  Identifiers of evaluations have 36 characters and are drawn in
sequence, so no two are the same.
-/

import Eligibility.Text.Digit
import Eligibility.Value.Basic

namespace Eligibility

/-- The identifier of the evaluation with a serial number. -/
def evaluationId (serial : Nat) : String :=
  "00000000-0000-4000-8000-" ++ Text.padded 16 12 (serial % Nat.pow 16 12)

/-- What log lines are traced to. -/
structure LogContext where
  evaluationId : Option String := none
  criteriaId : Option Value := none

namespace LogContext

/-- A context for an evaluation. -/
def withEvaluation (context : LogContext) (id : String) : LogContext :=
  { context with evaluationId := some id }

/-- A context for a criteria. An empty identifier leaves the context as it is. -/
def withCriteria (context : LogContext) (id : Value) : LogContext :=
  if id.isTruthy then { context with criteriaId := some id } else context

end LogContext
end Eligibility
