/-
# The evaluation service

A service evaluates criteria and keeps the results in a store, under a key made of the
criteria's identifier and the digest of the subject.  It counts look-ups that were answered and
those that were not, and holds a lock for every key whose result is being computed.
-/

import Eligibility.Criteria.Evaluation
import Eligibility.Log.Context
import Eligibility.Metrics
import Eligibility.Store.Basic
import Eligibility.Subject.Canonical

namespace Eligibility

/-- A service over a store. -/
structure Service (σ : Type) where
  store : σ
  metrics : Metrics := { service := "eligibility" }
  hits : Nat := 0
  misses : Nat := 0
  /-- The keys whose results are being computed. -/
  locks : List String := []
  context : LogContext := {}
  /-- The number of evaluations that have been given an identifier. -/
  drawn : Nat := 0

namespace Service

variable {σ α : Type}

/-- The tag of every stored result. -/
def evaluationsTag : String := "evaluations"

/-- The tag of the results of a criteria. -/
def criteriaTag (criteriaId : String) : String := "criteria:" ++ criteriaId

/-- The tags of a result. -/
def tagsOf (criteria : Criteria) : List String :=
  [criteriaTag criteria.criteriaId.display, evaluationsTag]

/-- The key of the result of a criteria for a subject. -/
def keyOf (settings : Settings) (criteria : Criteria) (subject : Value) : Except Failure String :=
  match Canonical.digest subject with
  | .ok digest =>
    .ok (settings.keyPrefix ++ ":" ++ criteria.criteriaId.display ++ ":" ++ digest)
  | .error fault => .error (.canonical fault)

/-- The key of the result of a criteria, which has to be given. -/
def keyOfGiven (settings : Settings) (criteria? : Option Criteria) (subject : Value) :
    Except Failure String :=
  match criteria? with
  | some criteria => keyOf settings criteria subject
  | none => .error .keyWithoutCriteria

/-- A step of the store. -/
def inStore (x : Step σ α) : Step (Service σ) α :=
  Action.within (·.store) (fun s store => { s with store := store }) x

/-- Change the metrics. -/
def measure (f : Metrics → Metrics) : Step (Service σ) Unit :=
  Action.modify fun s => { s with metrics := f s.metrics }

/-- The share of look-ups that were answered, with four places. -/
def hitRatio (s : Service σ) : Double :=
  let total := s.hits + s.misses
  if total = 0 then .zero else (Double.ofNat s.hits / Double.ofNat total).roundPlaces 4

/-- The label of look-ups in the metrics. -/
def lookupLabels : List String := ["evaluation"]

/-- Bring the gauge of the metrics up to date. -/
def withRatio (s : Service σ) : Service σ :=
  { s with metrics := { s.metrics with hitRatio := s.hitRatio } }

/-- Count a look-up that was answered. -/
def countHit (s : Service σ) : Service σ :=
  withRatio { s with
    hits := s.hits + 1
    metrics := s.metrics.increment .hits lookupLabels }

/-- Count a look-up that was not answered. -/
def countMiss (s : Service σ) : Service σ :=
  withRatio { s with
    misses := s.misses + 1
    metrics := s.metrics.increment .misses lookupLabels }

/-- Hold the lock of a key. -/
def lock (key : String) (s : Service σ) : Service σ :=
  { s with locks := if s.locks.contains key then s.locks else key :: s.locks }

/-- Give the lock of a key up. -/
def unlock (key : String) (s : Service σ) : Service σ :=
  { s with locks := s.locks.filter (· != key) }

/-- Trace what is logged to a new evaluation of a criteria. -/
def openContext (criteria : Criteria) (s : Service σ) : Service σ :=
  { s with
    context := (s.context.withEvaluation (evaluationId s.drawn)).withCriteria criteria.criteriaId
    drawn := s.drawn + 1 }

/-- Trace what is logged to no evaluation. -/
def closeContext (s : Service σ) : Service σ := { s with context := {} }

end Service
end Eligibility
