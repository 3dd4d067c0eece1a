/-
# Batches and warm-up

A batch evaluates one criteria for many subjects, cut into chunks.  A subject that cannot be
evaluated gets an item with the error and does not disturb the others.  Warm-up evaluates
subjects for the sake of the store alone and passes over those that are refused.
-/

import Eligibility.Service.Evaluation

namespace Eligibility

/-- The outcome of one subject in a batch. -/
structure BatchItem where
  index : Nat
  digest : String
  passed : Bool
  score : Double := .zero
  decision : Option String := none
  result : Option Evaluation := none
  error : Option String := none

/-- The outcomes of a batch, in the order of its subjects. -/
structure Batch where
  criteriaId : String
  items : List BatchItem

namespace Batch

/-- The number of subjects that were evaluated or gave an error. -/
def total (batch : Batch) : Nat := batch.items.length

/-- The number of subjects that passed. -/
def passed (batch : Batch) : Nat := batch.items.countP (·.passed)

/-- The number of subjects that did not pass. -/
def failed (batch : Batch) : Nat := batch.total - batch.passed

/-- A list cut into chunks of a size, the last of which may be shorter. A size of zero counts as
one. -/
def chunks {α : Type} (size : Nat) : List α → List (List α)
  | [] => []
  | a :: rest => (a :: rest.take (size - 1)) :: chunks size (rest.drop (size - 1))
  termination_by items => items.length
  decreasing_by simp only [List.length_drop, List.length_cons]; omega

theorem flatten_chunks {α : Type} (size : Nat) (items : List α) :
    (chunks size items).flatten = items := by
  fun_induction chunks size items with
  | case1 => rfl
  | case2 a rest ih => simp [ih]

end Batch

namespace BatchItem

/-- The item of a subject that was evaluated. -/
def ofResult (index : Nat) (digest : String) (result : Evaluation) : BatchItem :=
  { index, digest, passed := result.passed, score := result.score,
    decision := some result.decision, result := some result }

/-- The item of a subject that could not be evaluated. -/
def ofFailure (index : Nat) (digest : String) (failure : Failure) : BatchItem :=
  { index, digest, passed := false, error := some failure.message }

end BatchItem

namespace Service

variable {σ : Type} [Store σ]

/-- The digest of a subject of a batch; a subject without one has an empty text instead. A decimal
among keys that are NaN is not forgiven. -/
def digestOr (subject : Value) : Step (Service σ) String :=
  match Canonical.digest subject with
  | .ok digest => pure digest
  | .error .decimalAgainstNaN => Action.fail (.canonical .decimalAgainstNaN)
  | .error _ => do
    Action.note .unhashableSubject
    return ""

/-- Evaluate a subject of a batch, through the store or past it. -/
def evaluateItem (settings : Settings) (criteria : Criteria) (useStore : Bool) (subject : Value) :
    Step (Service σ) Evaluation :=
  if useStore then evaluate settings (some criteria) subject (some true)
  else do
    accept settings subject
    compute settings criteria subject

/-- The item of a subject. -/
def itemOf (settings : Settings) (criteria : Criteria) (useStore : Bool)
    (indexed : Value × Nat) : Step (Service σ) BatchItem := do
  let (subject, index) := indexed
  let digest ← digestOr subject
  match ← (evaluateItem settings criteria useStore subject).attempt with
  | .ok result => return .ofResult index digest result
  | .error failure => do
    Action.note .itemFailed
    measure (·.recordError "BATCH_ITEM_FAILED")
    return .ofFailure index digest failure

/-- What the subjects of chunks come to, numbered from a start. All subjects of a chunk are carried
to their end; when one of them has no item, the chunks after it are not begun. -/
def attemptItems (settings : Settings) (criteria : Criteria) (useStore : Bool) :
    (start : Nat) → List (List Value) → Step (Service σ) (List (Except Failure BatchItem))
  | _, [] => pure []
  | start, chunk :: rest => do
    let outcomes ← Action.each
      (fun indexed => (itemOf settings criteria useStore indexed).attempt) (chunk.zipIdx start)
    if outcomes.all (·.isOk) then
      return outcomes ++ (← attemptItems settings criteria useStore (start + chunk.length) rest)
    else return outcomes

/-- Evaluate a criteria for the subjects of a batch. -/
def evaluateBatch (settings : Settings) (criteria? : Option Criteria) (subjects : List Value)
    (useStore : Bool) : Step (Service σ) Batch := do
  match criteria? with
  | none => Action.fail (.noCriteria .batchEvaluation)
  | some criteria =>
    let chunks := Batch.chunks settings.batchSize.toNat subjects
    let outcomes ← attemptItems settings criteria useStore 0 chunks
    let items ← Action.ofExcept (outcomes.mapM id)
    let criteriaId ← Action.ofExcept (requireText "criteria_id" criteria.criteriaId)
    Action.note .batchCompleted
    measure (·.recordBusinessEvent "batch_evaluation")
    return { criteriaId, items }

/-- Warm the store for a subject, and tell whether that worked. A failure of none of the families
is kept for the end. -/
def warm (settings : Settings) (criteria : Criteria) (subject : Value) :
    Step (Service σ) (Except Failure Bool) := do
  match ← (evaluate settings (some criteria) subject (some true)).attempt with
  | .ok _ => return .ok true
  | .error failure =>
    if failure.family?.isSome then
      Action.note .warmUpFailed
      return .ok false
    else return .error failure

/-- Warm the store for subjects, and tell for how many that worked. -/
def warmUp (settings : Settings) (criteria? : Option Criteria) (subjects : List Value) :
    Step (Service σ) Nat := do
  match criteria? with
  | none => Action.fail (.noCriteria .warmUp)
  | some criteria =>
    let outcomes ← Action.each (warm settings criteria) subjects
    let warmed ← Action.ofExcept (outcomes.mapM id)
    Action.note .warmed
    return warmed.count true

end Service
end Eligibility
