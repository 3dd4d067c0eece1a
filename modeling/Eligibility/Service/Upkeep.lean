/-
# Upkeep of a service

Starting and stopping, asking what is stored, and dropping stored results: one, those of a
criteria, or all.  Where the store does not support tags, dropping those of a criteria drops all.
-/

import Eligibility.Service.Basic

namespace Eligibility
namespace Service

variable {σ : Type} [Store σ]

/-- Start the service. -/
def start : Step (Service σ) Unit := do
  inStore Store.start
  Action.note .serviceStarted

/-- Stop the service. -/
def stop : Step (Service σ) Unit := do
  inStore Store.stop
  Action.note .serviceStopped

/-- Whether the result of a criteria for a subject is stored. -/
def isStored (settings : Settings) (criteria? : Option Criteria) (subject : Value) :
    Step (Service σ) Bool := do
  let key ← Action.ofExcept (keyOfGiven settings criteria? subject)
  inStore (Store.holds key)

/-- Count that stored results were dropped, in this way. -/
def countDropped (mode : String) : Step (Service σ) Unit :=
  measure (·.increment .invalidations [mode])

/-- Drop the result of a criteria for a subject, and tell whether it was stored. -/
def dropResult (settings : Settings) (criteria? : Option Criteria) (subject : Value) :
    Step (Service σ) Bool := do
  let key ← Action.ofExcept (keyOfGiven settings criteria? subject)
  let dropped ← inStore (Store.delete key)
  countDropped "key"
  return dropped

/-- Drop the results of a criteria, and tell how many entries that removed. -/
def dropCriteria (criteriaId : String) : Step (Service σ) Nat := do
  let byTag := Store.supportsTags (← Action.current).store
  let count ←
    if byTag then inStore (Store.dropTag (criteriaTag criteriaId)) else inStore Store.flush
  countDropped (Event.modeText byTag)
  Action.note (.invalidated byTag count)
  return count

/-- Drop every result, and tell how many entries that removed. -/
def dropAll : Step (Service σ) Nat := do
  let count ← inStore Store.flush
  countDropped (Event.modeText false)
  Action.note (.flushed count)
  return count

/-- A description of how the store is used. -/
def stats (settings : Settings) : Step (Service σ) (List (String × Value)) := do
  let s ← Action.current
  let backend ← inStore Store.stats
  return [("enabled", .bool settings.storeResults), ("ttl", .int settings.lifetime),
    ("prefix", .text settings.keyPrefix), ("hits", .int s.hits), ("misses", .int s.misses),
    ("hit_ratio", .double s.hitRatio),
    ("backend", .map (backend.map fun (name, v) => (.text name, v)))]

end Service
end Eligibility
