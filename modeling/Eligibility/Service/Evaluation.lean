/-
# Evaluating through the store

An evaluation is first looked up.  When it is not found, its key is locked and looked up again,
since another evaluation of the same key may have finished meanwhile; only then is it computed
and stored.  Every result that is returned is noted with where it came from.

A stored text that cannot be read is thrown away and counts as not found.
-/

import Eligibility.Record.Reader
import Eligibility.Record.Writer
import Eligibility.Service.Basic
import Eligibility.Subject.Validation

namespace Eligibility
namespace Service

variable {σ α : Type} [Store σ]

/-- Evaluate a criteria, and measure it. -/
def compute (settings : Settings) (criteria : Criteria) (subject : Value) :
    Step (Service σ) Evaluation := do
  let result ← (Step.ofTrial (criteria.evaluate settings subject)).ending fun s =>
    { s with metrics := s.metrics.observe .zero }
  measure (·.increment .evaluations [if result.passed then "true" else "false"])
  return result

/-- The readable result under a key. One that cannot be read is thrown away. -/
def fetch (key : String) : Step (Service σ) (Option Evaluation) := do
  match ← inStore (Store.get key) with
  | none => return none
  | some stored =>
    match Evaluation.ofStored? stored with
    | some result => return some result
    | none => do
      Action.note .unreadableEntry
      let _ ← inStore (Store.delete key)
      return none

/-- Look a key up and count the outcome; that nothing was found counts only when asked for. -/
def lookup (key : String) (countMisses : Bool) : Step (Service σ) (Option Evaluation) := do
  match ← fetch key with
  | some result => do
    Action.modify countHit
    return some result
  | none => do
    if countMisses then Action.modify countMiss
    return none

/-- Put a result under its key and tags. -/
def keep (settings : Settings) (criteria : Criteria) (key : String) (result : Evaluation) :
    Step (Service σ) Unit := do
  let stored ← Action.ofExcept result.stored
  inStore (Store.put key stored settings.lifetime (tagsOf criteria))

/-- The result under a locked key, computed and stored unless it is there by now. -/
def settle (settings : Settings) (criteria : Criteria) (subject : Value) (key : String) :
    Step (Service σ) Evaluation := do
  match ← lookup key false with
  | some result => do
    Action.note (.completed true)
    return result
  | none => do
    let result ← compute settings criteria subject
    keep settings criteria key result
    Action.note (.completed false)
    return result

/-- How far an evaluation has come after its first look-up. -/
inductive Progress where
  | done (result : Evaluation)
  /-- The key is locked, and the result still has to be settled. -/
  | pending (key : String)

/-- Accept a subject, where the settings want it. -/
def accept (settings : Settings) (subject : Value) : Step (Service σ) Unit :=
  if settings.validateInput then Step.ofTrial (Subject.validate settings subject) else pure ()

/-- The first part of an evaluation, up to and with the first look-up. -/
def embark (settings : Settings) (criteria : Criteria) (subject : Value) (useStore : Bool) :
    Step (Service σ) Progress := do
  accept settings subject
  if useStore then
    let key ← Action.ofExcept (keyOf settings criteria subject)
    match ← lookup key true with
    | some result => do
      Action.note (.completed true)
      return .done result
    | none => do
      Action.modify (lock key)
      return .pending key
  else
    let result ← compute settings criteria subject
    Action.note (.completed false)
    return .done result

/-- The rest of an evaluation. The lock is given up in any case. -/
def conclude (settings : Settings) (criteria : Criteria) (subject : Value) :
    Progress → Step (Service σ) Evaluation
  | .done result => pure result
  | .pending key => (settle settings criteria subject key).ending (unlock key)

/-- Count a failure of one of the families, and note one of the store. -/
def report (failure : Failure) : Step (Service σ) Unit :=
  match failure.family? with
  | none => pure ()
  | some family => do
    measure (·.recordError family.code)
    if family = .store then Action.note .storeFailed

/-- A part of an evaluation, within its context and with its failures reported. -/
def attended (criteria : Criteria) (x : Step (Service σ) α) : Step (Service σ) α :=
  Action.ending (do
    Action.modify (openContext criteria)
    match ← x.attempt with
    | .ok a => return a
    | .error failure => do
      report failure
      Action.fail failure) closeContext

/-- Fail for want of a criteria. -/
def withoutCriteria : Step (Service σ) α := do
  measure (·.recordError Failure.Family.criteriaNotFound.code)
  Action.fail (.noCriteria .evaluation)

/-- Evaluate a criteria for a subject. Unless it is said whether to use the store, the settings
decide. -/
def evaluate (settings : Settings) (criteria? : Option Criteria) (subject : Value)
    (useStore? : Option Bool) : Step (Service σ) Evaluation :=
  match criteria? with
  | none => withoutCriteria
  | some criteria =>
    attended criteria do
      let useStore := useStore?.getD settings.storeResults
      conclude settings criteria subject (← embark settings criteria subject useStore)

end Service
end Eligibility
