/-
# A batch is its single evaluations

Past the store, the item of a subject tells what the evaluation of that subject alone comes to
(`Tells`), in whatever state the service is and whatever was evaluated before it.  So a batch has
one item for each subject, in order, however it is cut into chunks and in whatever order the
subjects of a chunk are worked on (`evaluateBatch_eq_single`).

A subject without canonical text has an item like any other, but for one kind: where a decimal has
to be compared with a NaN to put the keys in order, no item is made at all, and the batch fails
with the others (`comparable`, `batch_aborted`).
-/

import Eligibility.Proofs.Service.Parts
import Eligibility.Proofs.Service.Run
import Eligibility.Store.Memory

namespace Eligibility

namespace Service

/-- Whether the keys of the maps in a subject are put in order without a decimal being compared
with a NaN. -/
def isComparable (subject : Value) : Bool :=
  match Canonical.digest subject with
  | .error .decimalAgainstNaN => false
  | _ => true

/-- The digest that an item shows; nothing when the subject has none. -/
def shownDigest (subject : Value) : String := (Canonical.digest subject).toOption.getD ""

/-- What an item tells of the subject at a place, whose evaluation comes to this. -/
structure Tells (index : Nat) (subject : Value) (outcome : Except Failure Evaluation)
    (item : BatchItem) : Prop where
  index : item.index = index
  digest : item.digest = shownDigest subject
  returned : ∀ e, outcome = .ok e → item.passed = e.passed ∧ item.score = e.score ∧
    item.decision = some e.decision ∧ item.result = some e ∧ item.error = none
  failed : ∀ failure, outcome = .error failure → item.passed = false ∧ item.score = .zero ∧
    item.decision = none ∧ item.result = none ∧ item.error = some failure.message

/-- The item of a subject whose evaluation comes to this. -/
def itemTelling (index : Nat) (subject : Value) : Except Failure Evaluation → BatchItem
  | .ok e => .ofResult index (shownDigest subject) e
  | .error failure => .ofFailure index (shownDigest subject) failure

theorem tells_itemTelling (index : Nat) (subject : Value) (outcome : Except Failure Evaluation) :
    Tells index subject outcome (itemTelling index subject outcome) := by
  cases outcome with
  | ok e =>
    refine ⟨rfl, rfl, ?_, ?_⟩
    · rintro _ ⟨⟩
      exact ⟨rfl, rfl, rfl, rfl, rfl⟩
    · rintro _ ⟨⟩
  | error failure =>
    refine ⟨rfl, rfl, ?_, ?_⟩
    · rintro _ ⟨⟩
    · rintro _ ⟨⟩
      exact ⟨rfl, rfl, rfl, rfl, rfl⟩

variable {σ : Type} {settings : Settings} {criteria : Criteria} {subject : Value}

theorem result_digestOr (subject : Value) (s : Service σ) :
    (digestOr subject s).result = if isComparable subject then .ok (shownDigest subject)
      else .error (.canonical .decimalAgainstNaN) := by
  unfold digestOr isComparable shownDigest
  cases Canonical.digest subject with
  | ok digest => rfl
  | error fault => cases fault <;> rfl

/-- The item of a subject that is evaluated past the store. -/
def singleItem (settings : Settings) (criteria : Criteria) (indexed : Value × Nat) : BatchItem :=
  itemTelling indexed.2 indexed.1 (alone settings criteria indexed.1)

/-- What making an item comes to, in whatever state. -/
def itemOrFault (settings : Settings) (criteria : Criteria) (indexed : Value × Nat) :
    Except Failure BatchItem :=
  if isComparable indexed.1 then .ok (singleItem settings criteria indexed)
  else .error (.canonical .decimalAgainstNaN)

theorem mapM_itemOrFault (indexed : List (Value × Nat)) :
    indexed.mapM (itemOrFault settings criteria) =
      if indexed.all (isComparable ·.1) then .ok (indexed.map (singleItem settings criteria))
      else .error (.canonical .decimalAgainstNaN) := by
  induction indexed with
  | nil => rfl
  | cons first rest ih =>
    rw [List.mapM_cons, ih, itemOrFault, List.all_cons]
    cases isComparable first.1 <;> cases rest.all (isComparable ·.1) <;> rfl

variable [Store σ]

/-- **What making an item comes to does not depend on the state**, so neither does it on what was
evaluated before. -/
theorem result_itemOf (settings : Settings) (criteria : Criteria) (indexed : Value × Nat)
    (s : Service σ) :
    (itemOf settings criteria false indexed s).result = itemOrFault settings criteria indexed := by
  obtain ⟨subject, index⟩ := indexed
  have digested := result_digestOr subject s
  unfold itemOrFault
  split
  · next comparable =>
    rw [if_pos comparable] at digested
    refine (Action.result_bind digested).trans ?_
    have tried : ((evaluateItem settings criteria false subject).attempt
        (digestOr subject s).state).result =
          .ok (ε := Failure) (alone settings criteria subject) :=
      congrArg Except.ok (result_evaluateItem_past settings criteria subject _)
    refine (Action.result_bind tried).trans ?_
    unfold singleItem
    cases alone settings criteria subject <;> rfl
  · next not =>
    rw [if_neg not] at digested
    exact Action.result_bind_error digested

/-- Subjects past the store are worked on one after another. -/
theorem result_each_itemOf (indexed : List (Value × Nat)) (s : Service σ) :
    (Action.each (itemOf settings criteria false) indexed s).result =
      indexed.mapM (itemOrFault settings criteria) :=
  Action.result_each_of_steady (result_itemOf settings criteria) indexed s

/-- Outcomes with a failure among them are not collected. -/
theorem exists_fault_of_not_all {ε α : Type} {outcomes : List (Except ε α)}
    (not : outcomes.all (·.isOk) = false) : ∃ fault, outcomes.mapM id = .error fault := by
  cases came : outcomes.mapM id with
  | error fault => exact ⟨fault, rfl⟩
  | ok as =>
    rw [mapM_id_eq_ok.1 came] at not
    simp [Except.isOk, Except.toBool] at not

/-- However a list of subjects is cut, its items come to the same. -/
theorem result_attemptItems (settings : Settings) (criteria : Criteria)
    (chunks : List (List Value)) (start : Nat) (s : Service σ) :
    ∃ outcomes, (attemptItems settings criteria false start chunks s).result = .ok outcomes ∧
      outcomes.mapM id = (chunks.flatten.zipIdx start).mapM (itemOrFault settings criteria) := by
  induction chunks generalizing start s with
  | nil => exact ⟨[], rfl, rfl⟩
  | cons chunk rest ih =>
    let here := (chunk.zipIdx start).map (itemOrFault settings criteria)
    have first : (Action.each (ε := Failure)
        (fun indexed => (itemOf settings criteria false indexed).attempt)
        (chunk.zipIdx start) s).result = .ok here := by
      refine (Action.result_each_of_steady (r := .ok ∘ itemOrFault settings criteria)
        (fun indexed t => congrArg Except.ok (result_itemOf settings criteria indexed t)) _ s).trans ?_
      exact List.mapM_pure
    have collected : here.mapM id = (chunk.zipIdx start).mapM (itemOrFault settings criteria) :=
      List.mapM_map
    rw [List.flatten_cons, List.zipIdx_append, List.mapM_append, ← collected]
    cases all : here.all (·.isOk) with
    | true =>
      obtain ⟨later, came, same⟩ := ih (start + chunk.length) _
      refine ⟨here ++ later, (Action.result_bind first).trans ?_, ?_⟩
      · rw [if_pos all]
        exact (Action.result_bind came).trans rfl
      · rw [List.mapM_append, same]
    | false =>
      refine ⟨here, (Action.result_bind first).trans ?_, ?_⟩
      · rw [if_neg (Bool.eq_false_iff.1 all)]
        rfl
      · obtain ⟨fault, failed⟩ := exists_fault_of_not_all all
        rw [failed]
        rfl

/-- What a batch past the store comes to. -/
theorem result_evaluateBatch (settings : Settings) (criteria : Criteria) (subjects : List Value)
    (s : Service σ) :
    (evaluateBatch settings (some criteria) subjects false s).result = (do
      let items ← subjects.zipIdx.mapM (itemOrFault settings criteria)
      let criteriaId ← requireText "criteria_id" criteria.criteriaId
      return { criteriaId, items }) := by
  obtain ⟨outcomes, came, same⟩ := result_attemptItems settings criteria
    (Batch.chunks settings.batchSize.toNat subjects) 0 s
  rw [Batch.flatten_chunks] at same
  rw [← same]
  refine (Action.result_bind came).trans ?_
  refine Action.result_bind_of_steady (fun items t => ?_) _
  exact Action.result_bind_of_steady
    (r := fun criteriaId => .ok (Batch.mk criteriaId items)) (fun _ _ => rfl) t

/-! ### However it is cut -/

omit [Store σ] in
theorem validateMembers_of_chunking (settings : Settings) (size concurrency : Int)
    (members : List (Value × Value)) :
    Subject.validateMembers
        { settings with batchSize := size, batchConcurrency := concurrency } members =
      Subject.validateMembers settings members := by
  induction members with
  | nil => rfl
  | cons member rest ih =>
    rw [Subject.validateMembers, ih]
    rfl

omit [Store σ] in
/-- How batches are cut makes no difference to what a subject comes to. -/
theorem alone_of_chunking (settings : Settings) (criteria : Criteria) (size concurrency : Int)
    (subject : Value) :
    alone { settings with batchSize := size, batchConcurrency := concurrency } criteria subject =
      alone settings criteria subject := by
  have evaluated : criteria.evaluate
      { settings with batchSize := size, batchConcurrency := concurrency } subject =
        criteria.evaluate settings subject := rfl
  have valid : Subject.validate
      { settings with batchSize := size, batchConcurrency := concurrency } subject =
        Subject.validate settings subject := by
    cases subject with
    | map members => exact validateMembers_of_chunking settings size concurrency members
    | _ => rfl
  simp only [alone, accepted, evaluated, valid]

omit [Store σ] in
theorem itemOrFault_of_chunking (settings : Settings) (criteria : Criteria)
    (size concurrency : Int) :
    itemOrFault { settings with batchSize := size, batchConcurrency := concurrency } criteria =
      itemOrFault settings criteria := by
  funext indexed
  rw [itemOrFault, itemOrFault, singleItem, singleItem, alone_of_chunking]

/-- **A batch is its single evaluations.**  Unless a subject has keys that cannot be compared, which
fails the whole batch, there is one item for each subject, at its place: it tells what the
evaluation of that subject past the store comes to, in whatever state the service is.  The counts
add up; the batch is the same however it is cut and whatever the service has done before, and so
are its items in whatever order the subjects are worked on. -/
theorem evaluateBatch_eq_single (settings : Settings) (criteria : Criteria)
    (subjects : List Value) (s : Service σ) :
    ((∃ subject ∈ subjects, isComparable subject = false) →
      (evaluateBatch settings (some criteria) subjects false s).result =
        .error (.canonical .decimalAgainstNaN)) ∧
    ∀ criteriaId, criteria.criteriaId = .text criteriaId →
      (∀ subject ∈ subjects, isComparable subject = true) →
      ∃ batch, (evaluateBatch settings (some criteria) subjects false s).result = .ok batch ∧
        batch.criteriaId = criteriaId ∧
        batch.items.length = subjects.length ∧
        (∀ i subject, subjects[i]? = some subject → ∃ item, batch.items[i]? = some item ∧
          ∀ t : Service σ, Tells i subject
            (evaluate settings (some criteria) subject (some false) t).result item) ∧
        batch.total = subjects.length ∧ batch.passed + batch.failed = batch.total ∧
        batch.passed = (batch.items.filter (·.passed)).length ∧
        (∀ size concurrency, ∀ t : Service σ,
          (evaluateBatch { settings with batchSize := size, batchConcurrency := concurrency }
            (some criteria) subjects false t).result = .ok batch) ∧
        ∀ order, order.Perm subjects.zipIdx → ∀ t : Service σ, ∃ items,
          (Action.each (itemOf settings criteria false) order t).result = .ok items ∧
            items.Perm batch.items := by
  have indexed : subjects.zipIdx.all (isComparable ·.1) = subjects.all isComparable := by
    rw [← List.zipIdx_map_fst 0 subjects, List.all_map, List.zipIdx_map_fst]
    rfl
  constructor
  · rintro ⟨subject, member, not⟩
    have some : subjects.all isComparable = false :=
      List.all_eq_false.2 ⟨subject, member, Bool.eq_false_iff.1 not⟩
    rw [result_evaluateBatch, mapM_itemOrFault, indexed, some]
    rfl
  · intro criteriaId named comparable
    have all : subjects.all isComparable = true := List.all_eq_true.2 comparable
    let items := subjects.zipIdx.map (singleItem settings criteria)
    have result (size concurrency : Int) (t : Service σ) : (evaluateBatch
        { settings with batchSize := size, batchConcurrency := concurrency } (some criteria)
          subjects false t).result = .ok { criteriaId, items } := by
      rw [result_evaluateBatch, itemOrFault_of_chunking, mapM_itemOrFault, indexed, all, named]
      rfl
    have many : items.length = subjects.length := by simp [items]
    refine ⟨{ criteriaId, items }, result settings.batchSize settings.batchConcurrency s, rfl, many,
      fun i subject here => ?_, many, ?_, List.countP_eq_length_filter, result,
      fun order same t => ?_⟩
    · refine ⟨singleItem settings criteria (subject, i), ?_, fun t => ?_⟩
      · simp [items, here]
      · rw [result_evaluate_past]
        exact tells_itemTelling i subject _
    · have most : items.countP (·.passed) ≤ items.length := List.countP_le_length
      exact Nat.add_sub_cancel' most
    · have comparables : order.all (isComparable ·.1) = true := by
        rw [same.all_eq, indexed, all]
      refine ⟨order.map (singleItem settings criteria), ?_, same.map _⟩
      rw [result_each_itemOf, mapM_itemOrFault, comparables]
      rfl

/-- A subject with a decimal and a NaN for keys. -/
def unordered : Value := .map [(.decimal (.finite false 1 0), .int 1), (.double .nan, .int 2)]

/-- A subject whose keys are of kinds that have no order, so it has no canonical text. -/
def unhashable : Value := .map [(.text "age", .int 17), (.int 1, .null)]

/-- A service that has done nothing yet. -/
def idle : Service Memory := { store := {} }

/-- The requirements can be met: a subject that is no map and one without canonical text have items
like any other, and one with keys that cannot be compared fails the batch. -/
theorem evaluateBatch_eq_single_mixed :
    (evaluateBatch {} (some adults) [twenty, unordered] false idle).result =
        .error (.canonical .decimalAgainstNaN) ∧
      ∃ batch, (evaluateBatch {} (some adults) [twenty, .text "twenty", unhashable] false
          idle).result = .ok batch ∧ batch.passed + batch.failed = 3 ∧
        ∃ item, batch.items[1]? = some item ∧ ∀ t : Service Memory, Tells 1 (.text "twenty")
          (evaluate {} (some adults) (.text "twenty") (some false) t).result item := by
  have fails : isComparable unordered = false := by decide +kernel
  have comparable : ∀ subject ∈ [twenty, .text "twenty", unhashable],
      isComparable subject = true := by
    rw [← List.all_eq_true]
    decide +kernel
  refine ⟨(evaluateBatch_eq_single {} adults _ idle).1 ⟨unordered, by simp, fails⟩, ?_⟩
  obtain ⟨batch, came, -, -, each, total, counts, -⟩ :=
    (evaluateBatch_eq_single {} adults _ idle).2 "adults" rfl comparable
  exact ⟨batch, came, counts.trans total, each 1 _ rfl⟩

/-- **A subject can fail the whole batch**, though it is evaluated alone without any failure. -/
theorem batch_aborted :
    (evaluateBatch {} (some adults) [twenty, unordered] false idle).result =
        .error (.canonical .decimalAgainstNaN) ∧
      ∃ e, (evaluate {} (some adults) unordered (some false) idle).result = .ok e := by
  constructor
  · have fails : [twenty, unordered].zipIdx.all (isComparable ·.1) = false := by decide +kernel
    rw [result_evaluateBatch, mapM_itemOrFault, fails]
    rfl
  · have returns : (alone {} adults unordered).toOption.isSome = true := by decide +kernel
    obtain ⟨e, came⟩ := Option.isSome_iff_exists.1 returns
    exact ⟨e, (result_evaluate_past {} adults unordered idle).trans (ok_of_toOption came)⟩

end Service
end Eligibility
