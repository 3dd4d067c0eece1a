/-
# Concurrent evaluations

Evaluations of one criteria for several subjects are started together.  Over a store that yields
all of them look their keys up before the first one goes on; the rest of each then runs in the
order of the subjects, so of those with the same key the first computes the result and the others
find it.  Over any other store they run one after another.
-/

import Eligibility.Service.Evaluation

namespace Eligibility
namespace Service

variable {σ : Type} [Store σ]

/-- Evaluations of one criteria, one after another. -/
def gatherInTurn (settings : Settings) (criteria? : Option Criteria) (useStore? : Option Bool)
    (subjects : List Value) : Step (Service σ) (List (Except Failure Evaluation)) :=
  Action.each (fun subject => (evaluate settings criteria? subject useStore?).attempt) subjects

/-- The first parts of evaluations, in order. -/
def embarkAll (settings : Settings) (criteria : Criteria) (useStore : Bool)
    (subjects : List Value) : Step (Service σ) (List (Value × Except Failure Progress)) :=
  Action.each (fun subject => do
    return (subject, ← (attended criteria (embark settings criteria subject useStore)).attempt))
    subjects

/-- The rest of an evaluation whose first part came to this. -/
def concludeOne (settings : Settings) (criteria : Criteria) :
    Value × Except Failure Progress → Step (Service σ) (Except Failure Evaluation)
  | (_, .error failure) => pure (.error failure)
  | (_, .ok (.done result)) => pure (.ok result)
  | (subject, .ok (.pending key)) =>
    (attended criteria (conclude settings criteria subject (.pending key))).attempt

/-- Evaluations of one criteria that all look up first. -/
def gatherTogether (settings : Settings) (criteria : Criteria) (useStore : Bool)
    (subjects : List Value) : Step (Service σ) (List (Except Failure Evaluation)) := do
  Action.each (concludeOne settings criteria)
    (← embarkAll settings criteria useStore subjects)

/-- Evaluate a criteria for several subjects at once. -/
def gather (settings : Settings) (criteria? : Option Criteria) (useStore? : Option Bool)
    (subjects : List Value) : Step (Service σ) (List (Except Failure Evaluation)) := do
  match criteria? with
  | some criteria =>
    if Store.yields (← Action.current).store then
      gatherTogether settings criteria (useStore?.getD settings.storeResults) subjects
    else gatherInTurn settings criteria? useStore? subjects
  | none => gatherInTurn settings none useStore? subjects

end Service
end Eligibility
