/-
# Settings

What an installation can choose: how its log is kept, where results are stored and for how
long, the defaults for criteria that leave something open, how batches are cut, and the limits
on subjects.
-/

import Eligibility.Value.Basic

namespace Eligibility

/-- The settings of an installation. -/
structure Settings where
  logLevel : String := "info"
  /-- The kind of store, `memory` or `redis`. -/
  backend : String := "memory"
  redisUrl : String := "redis://localhost:6379/0"
  passThreshold : Double := .ofNat 65
  scoringMethod : String := "weighted"
  defaultDecision : String := "Rejected"
  storeResults : Bool := true
  /-- How long a stored result lives, in seconds. -/
  lifetime : Int := 3600
  keyPrefix : String := "eligibility_eval"
  batchSize : Int := 100
  batchConcurrency : Int := 4
  validateInput : Bool := true
  maxFieldLength : Int := 255
  maxValueLength : Int := 1000
  /-- Settings that the engine does not know, kept as they are. -/
  extra : List (String × Value) := []

end Eligibility
