/-
# What a service does to its store

A service touches its store through five operations and one more for everything at once, and
puts nothing into it but the stored text of a result under the key and the tags of its criteria
and subject (`Written`).  So an invariant that the operations of a store keep (`Store.Keeps`) is
kept by everything that a service does, and a result that a service returns is explained
(`Explained`): it was computed for this very call, or read back from a text that was found under
the key.

Nothing here knows which store it is.
-/

import Eligibility.Proofs.Step
import Eligibility.Proofs.Trial
import Eligibility.Service.Batch
import Eligibility.Service.Gather
import Eligibility.Service.Upkeep

namespace Eligibility

/-- The operations of a store keep `I` for the keys in `κ`; a text that is found under a key is in
`R`, and what is put is in `W`. -/
structure Store.Keeps {σ : Type} [Store σ] (I : σ → Prop) (κ : String → Prop)
    (R : String → String → Prop) (W : String → String → List String → Prop) : Prop where
  get : ∀ key, κ key →
    Action.Keeps I (Store.get (σ := σ) key) fun found => ∀ value ∈ found, R key value
  put : ∀ key value lifetime tags, W key value tags →
    Action.Keeps I (Store.put (σ := σ) key value lifetime tags) fun _ => True
  delete : ∀ key, κ key → Action.Keeps I (Store.delete (σ := σ) key) fun _ => True
  holds : ∀ key, κ key → Action.Keeps I (Store.holds (σ := σ) key) fun found =>
    found = true → ∃ value, R key value
  dropTag : ∀ tag, Action.Keeps I (Store.dropTag (σ := σ) tag) fun _ => True
  /-- A store without tags is emptied where one with tags drops a tag. -/
  flush : ∀ s, I s → Store.supportsTags s = false → I (Store.flush (σ := σ) s).state

namespace Service

variable {σ α β : Type} {settings : Settings} {criteria : Criteria} {subject : Value}

/-- What the engine makes of a pair. -/
def Direct (settings : Settings) (criteria : Criteria) (subject : Value) (e : Evaluation) : Prop :=
  (criteria.evaluate settings subject).result = .ok e

/-- The key of a pair. -/
def IsKey (settings : Settings) (key : String) : Prop :=
  ∃ criteria subject, keyOf settings criteria subject = .ok key

/-- A text is the stored result of a pair, under its key. -/
structure Stored (settings : Settings) (criteria : Criteria) (subject : Value)
    (key value : String) : Prop where
  key : keyOf settings criteria subject = .ok key
  value : ∃ e, Direct settings criteria subject e ∧ e.stored = .ok value

/-- What a service that evaluates the pairs in `P` through its store puts there. -/
def Written (settings : Settings) (P : Criteria → Value → Prop) (key value : String)
    (tags : List String) : Prop :=
  ∃ criteria subject, P criteria subject ∧ Stored settings criteria subject key value ∧
    tags = tagsOf criteria

/-- A result of a pair in `P` is read back from a text that may be found under the key. -/
def Recalled (settings : Settings) (P : Criteria → Value → Prop) (R : String → String → Prop)
    (criteria : Criteria) (subject : Value) (e : Evaluation) : Prop :=
  P criteria subject ∧ ∃ key value, keyOf settings criteria subject = .ok key ∧ R key value ∧
    Evaluation.ofStored? value = some e

/-- A result was computed, or read back. -/
def Explained (settings : Settings) (P : Criteria → Value → Prop) (R : String → String → Prop)
    (criteria : Criteria) (subject : Value) (e : Evaluation) : Prop :=
  Direct settings criteria subject e ∨ Recalled settings P R criteria subject e

/-- An invariant of the store, as one of the service. -/
def OfStore (I : σ → Prop) (s : Service σ) : Prop := I s.store

variable {I : σ → Prop} {R : String → String → Prop} {P : Criteria → Value → Prop}

theorem inStore_apply (x : Step σ α) (s : Service σ) :
    inStore x s = ⟨(x s.store).result, { s with store := (x s.store).state }, (x s.store).events⟩ :=
  rfl

theorem keeps_inStore {x : Step σ α} {Q : α → Prop} (h : Action.Keeps I x Q) :
    Action.Keeps (OfStore I) (inStore x) Q :=
  h.within fun _ _ => rfl

theorem keeps_modify {f : Service σ → Service σ} (same : ∀ s, (f s).store = s.store) :
    Action.Keeps (ε := Failure) (OfStore I) (Action.modify f) fun _ => True :=
  .modify fun s inv => by rwa [OfStore, same]

theorem keeps_measure {f : Metrics → Metrics} :
    Action.Keeps (OfStore I) (measure (σ := σ) f) fun _ => True :=
  keeps_modify fun _ => rfl

theorem keeps_withoutCriteria :
    Action.Keeps (OfStore I) (withoutCriteria (σ := σ) (α := α)) fun _ => True :=
  keeps_measure.andThen fun _ => .fail

theorem keeps_accept : Action.Keeps (OfStore I) (accept (σ := σ) settings subject)
    fun _ => True := by
  unfold accept
  split
  · exact Step.keeps_ofTrial.trivial
  · exact .pure True.intro

theorem keeps_compute : Action.Keeps (OfStore I) (compute (σ := σ) settings criteria subject)
    (Direct settings criteria subject) := by
  refine Action.Keeps.bind (Step.keeps_ofTrial.ending ?_) fun e direct => ?_
  · exact fun _ inv => inv
  · exact keeps_measure.andThen fun _ => .pure direct

section Evaluate

variable [Store σ] (K : Store.Keeps I (IsKey settings) R (Written settings P))

include K

theorem keeps_fetch {key : String} (known : keyOf settings criteria subject = .ok key) :
    Action.Keeps (OfStore I) (fetch (σ := σ) key) fun found =>
      ∀ e ∈ found, ∃ value, R key value ∧ Evaluation.ofStored? value = some e := by
  refine (keeps_inStore (K.get key ⟨_, _, known⟩)).bind fun found under => ?_
  cases found with
  | none => exact .pure (by simp)
  | some stored =>
    cases read : Evaluation.ofStored? stored with
    | some e =>
      simp only [read]
      refine .pure fun e' member => ?_
      obtain rfl := Option.mem_some.1 member
      exact ⟨stored, under stored rfl, read⟩
    | none =>
      simp only [read]
      refine Action.Keeps.note.andThen fun _ => ?_
      exact (keeps_inStore (K.delete key ⟨_, _, known⟩)).andThen fun _ => .pure (by simp)

theorem keeps_lookup {key : String} (known : keyOf settings criteria subject = .ok key)
    (countMisses : Bool) :
    Action.Keeps (OfStore I) (lookup (σ := σ) key countMisses) fun found =>
      ∀ e ∈ found, ∃ value, R key value ∧ Evaluation.ofStored? value = some e := by
  refine (keeps_fetch K known).bind fun found under => ?_
  cases found with
  | some e => exact (keeps_modify fun _ => rfl).andThen fun _ => .pure under
  | none =>
    dsimp only
    split
    · exact (keeps_modify fun _ => rfl).andThen fun _ => .pure under
    · exact .pure under

theorem keeps_keep {key : String} {e : Evaluation} (pair : P criteria subject)
    (known : keyOf settings criteria subject = .ok key) (direct : Direct settings criteria subject e) :
    Action.Keeps (OfStore I) (keep (σ := σ) settings criteria key e) fun _ => True := by
  refine Action.Keeps.ofExcept.bind fun value stored => ?_
  exact keeps_inStore (K.put key value settings.lifetime (tagsOf criteria)
    ⟨criteria, subject, pair, ⟨known, e, direct, stored⟩, rfl⟩)

theorem keeps_settle {key : String} (pair : P criteria subject)
    (known : keyOf settings criteria subject = .ok key) :
    Action.Keeps (OfStore I) (settle (σ := σ) settings criteria subject key)
      (Explained settings P R criteria subject) := by
  refine (keeps_lookup K known false).bind fun found under => ?_
  cases found with
  | some e =>
    obtain ⟨value, held, read⟩ := under e rfl
    exact Action.Keeps.note.andThen fun _ => .pure (.inr ⟨pair, key, value, known, held, read⟩)
  | none =>
    refine keeps_compute.bind fun e direct => ?_
    refine (keeps_keep K pair known direct).andThen fun _ => ?_
    exact Action.Keeps.note.andThen fun _ => .pure (.inl direct)

/-- How far an evaluation of a pair may have come. One that still has to be settled is one of
those in `P`. -/
def Progress.Explained (settings : Settings) (P : Criteria → Value → Prop)
    (R : String → String → Prop) (criteria : Criteria) (subject : Value) : Progress → Prop
  | .done e => Service.Explained settings P R criteria subject e
  | .pending key => keyOf settings criteria subject = .ok key ∧ P criteria subject

theorem keeps_embark {useStore : Bool} (pair : useStore = true → P criteria subject) :
    Action.Keeps (OfStore I) (embark (σ := σ) settings criteria subject useStore)
      (Progress.Explained settings P R criteria subject) := by
  refine keeps_accept.andThen fun _ => ?_
  split
  · next used =>
    refine Action.Keeps.ofExcept.bind fun key known => ?_
    refine (keeps_lookup K known true).bind fun found under => ?_
    cases found with
    | some e =>
      obtain ⟨value, held, read⟩ := under e rfl
      exact Action.Keeps.note.andThen fun _ => .pure (.inr ⟨pair used, key, value, known, held, read⟩)
    | none => exact Action.Keeps.andThen (keeps_modify fun _ => rfl) fun _ => .pure ⟨known, pair used⟩
  · refine keeps_compute.bind fun e direct => ?_
    exact Action.Keeps.note.andThen fun _ => .pure (.inl direct)

theorem keeps_conclude {progress : Progress}
    (come : Progress.Explained settings P R criteria subject progress) :
    Action.Keeps (OfStore I) (conclude (σ := σ) settings criteria subject progress)
      (Explained settings P R criteria subject) := by
  cases progress with
  | done e => exact .pure come
  | pending key => exact (keeps_settle K come.2 come.1).ending fun _ inv => inv

omit [Store σ] K in
theorem keeps_attended {x : Step (Service σ) α} {Q : α → Prop}
    (h : Action.Keeps (OfStore I) x Q) : Action.Keeps (OfStore I) (attended criteria x) Q := by
  refine Action.Keeps.ending ?_ fun _ inv => inv
  refine Action.Keeps.andThen (keeps_modify fun _ => rfl) fun _ => ?_
  refine h.attempt.bind fun result found => ?_
  cases result with
  | ok a => exact .pure (found a rfl)
  | error failure =>
    refine Action.Keeps.andThen ?_ fun _ => .fail
    unfold report
    split
    · exact .pure True.intro
    · refine keeps_measure.andThen fun _ => ?_
      split
      · exact .note
      · exact .pure True.intro

theorem keeps_evaluate {useStore? : Option Bool}
    (pair : useStore?.getD settings.storeResults = true → P criteria subject) :
    Action.Keeps (OfStore I) (evaluate (σ := σ) settings (some criteria) subject useStore?)
      (Explained settings P R criteria subject) :=
  keeps_attended ((keeps_embark K pair).bind fun _ come => keeps_conclude K come)

/-! ### Several subjects -/

/-- What an attempted evaluation came to is explained. -/
def Attempted (settings : Settings) (P : Criteria → Value → Prop) (R : String → String → Prop)
    (criteria : Criteria) (subject : Value) (outcome : Except Failure Evaluation) : Prop :=
  ∀ e, outcome = .ok e → Explained settings P R criteria subject e

theorem keeps_gather {useStore? : Option Bool} {subjects : List Value}
    (pairs : useStore?.getD settings.storeResults = true →
      ∀ subject ∈ subjects, P criteria subject) :
    Action.Keeps (OfStore I) (gather (σ := σ) settings (some criteria) useStore? subjects)
      (List.Forall₂ (Attempted settings P R criteria) subjects) := by
  refine Action.Keeps.current.bind fun s _ => ?_
  split
  · refine (Action.Keeps.each (R := fun subject started => started.1 = subject ∧
      ∀ progress, started.2 = .ok progress →
        Progress.Explained settings P R criteria subject progress) subjects
      fun subject member => ?_).bind fun started come => ?_
    · refine (keeps_attended (keeps_embark K fun used => pairs used subject member)).attempt.bind
        fun progress come => ?_
      exact .pure ⟨rfl, come⟩
    · refine Action.Keeps.eachOf ?_ come
      rintro subject ⟨_, progress⟩ ⟨rfl, known⟩
      cases progress with
      | error failure => exact .pure fun _ no => by cases no
      | ok progress =>
        cases progress with
        | done e =>
          refine .pure fun e' eq => ?_
          obtain rfl := Except.ok.inj eq
          exact known _ rfl
        | pending key => exact (keeps_attended (keeps_conclude K (known _ rfl))).attempt
  · refine Action.Keeps.each subjects fun subject member => ?_
    exact (keeps_evaluate K fun used => pairs used subject member).attempt

/-- What the item of a subject tells. -/
structure ItemOf (settings : Settings) (P : Criteria → Value → Prop) (R : String → String → Prop)
    (criteria : Criteria) (subject : Value) (item : BatchItem) : Prop where
  /-- An item without a result gives an error. -/
  failed : item.result = none → item.error.isSome
  /-- An item with a result tells what the result tells. -/
  explained : ∀ e, item.result = some e → Explained settings P R criteria subject e ∧
    item.passed = e.passed ∧ item.score = e.score ∧ item.decision = some e.decision

theorem keeps_itemOf {useStore : Bool} {index : Nat}
    (pair : useStore = true → P criteria subject) :
    Action.Keeps (OfStore I) (itemOf (σ := σ) settings criteria useStore (subject, index))
      (ItemOf settings P R criteria subject) := by
  have digested : Action.Keeps (OfStore I) (digestOr (σ := σ) subject) fun _ => True := by
    unfold digestOr
    split
    · exact .pure True.intro
    · exact .fail
    · exact Action.Keeps.note.andThen fun _ => .pure True.intro
  have evaluated : Action.Keeps (OfStore I)
      (evaluateItem (σ := σ) settings criteria useStore subject)
      (Explained settings P R criteria subject) := by
    unfold evaluateItem
    split
    · next used => exact keeps_evaluate K fun _ => pair used
    · refine keeps_accept.andThen fun _ => ?_
      exact keeps_compute.weaken fun _ direct => .inl direct
  refine digested.andThen fun digest => ?_
  refine evaluated.attempt.bind fun outcome found => ?_
  cases outcome with
  | ok e =>
    refine .pure ⟨nofun, fun e' eq => ?_⟩
    obtain rfl : e = e' := Option.some.inj eq
    exact ⟨found e rfl, rfl, rfl, rfl⟩
  | error failure =>
    refine Action.Keeps.note.andThen fun _ => keeps_measure.andThen fun _ => ?_
    exact .pure ⟨fun _ => rfl, fun _ no => by cases no⟩

/-- What an attempt at the item of a subject came to. -/
def ItemTried (settings : Settings) (P : Criteria → Value → Prop) (R : String → String → Prop)
    (criteria : Criteria) (subject : Value) (outcome : Except Failure BatchItem) : Prop :=
  ∀ item, outcome = .ok item → ItemOf settings P R criteria subject item

theorem keeps_attemptItems {useStore : Bool} {chunks : List (List Value)}
    (pairs : useStore = true → ∀ subject ∈ chunks.flatten, P criteria subject) (start : Nat) :
    Action.Keeps (OfStore I) (attemptItems (σ := σ) settings criteria useStore start chunks)
      fun outcomes => ∀ items, outcomes.mapM id = .ok items →
        List.Forall₂ (ItemOf settings P R criteria) chunks.flatten items := by
  induction chunks generalizing start with
  | nil =>
    refine .pure fun items came => ?_
    obtain rfl : [] = items := Except.ok.inj came
    exact .nil
  | cons chunk rest ih =>
    have first : Action.Keeps (ε := Failure) (OfStore I)
        (Action.each (fun indexed => (itemOf (σ := σ) settings criteria useStore indexed).attempt)
          (chunk.zipIdx start))
        (List.Forall₂ (ItemTried settings P R criteria) chunk) := by
      refine Action.Keeps.eachOf (S := fun subject indexed => indexed.1 = subject ∧
        subject ∈ chunk) ?_ ?_
      · rintro subject ⟨_, index⟩ ⟨rfl, member⟩
        exact (keeps_itemOf K fun used => pairs used _ (List.mem_append_left _ member)).attempt
      · have numbered : List.Forall₂ (fun subject indexed => indexed.1 = subject ∧ subject ∈ chunk)
            ((chunk.zipIdx start).map Prod.fst) (chunk.zipIdx start) := by
          rw [List.forall₂_map_left_iff, List.forall₂_same]
          intro indexed member
          exact ⟨rfl, List.fst_mem_of_mem_zipIdx member⟩
        rwa [List.zipIdx_map_fst] at numbered
    refine first.bind fun outcomes tried => ?_
    split
    · refine (ih (fun used subject member =>
        pairs used subject (List.mem_append_right _ member)) _).bind fun later laterOf => ?_
      refine .pure fun items came => ?_
      obtain ⟨these, those, rfl, rfl, same⟩ := List.append_eq_map_iff.1 (mapM_id_eq_ok.1 came)
      have here : List.Forall₂ (ItemOf settings P R criteria) chunk these :=
        (List.forall₂_map_right_iff.1 tried).imp fun _ item found => found item rfl
      exact List.rel_append here (laterOf those (mapM_id_eq_ok.2 same.symm))
    · next failed =>
      refine .pure fun items came => absurd ?_ failed
      rw [mapM_id_eq_ok.1 came]
      simp [Except.isOk, Except.toBool]

theorem keeps_evaluateBatch {useStore : Bool} {subjects : List Value}
    (pairs : useStore = true → ∀ subject ∈ subjects, P criteria subject) :
    Action.Keeps (OfStore I) (evaluateBatch (σ := σ) settings (some criteria) subjects useStore)
      fun batch => List.Forall₂ (ItemOf settings P R criteria) subjects batch.items := by
  have whole := Batch.flatten_chunks settings.batchSize.toNat subjects
  have chunked := keeps_attemptItems K (whole.symm ▸ pairs) 0
  rw [whole] at chunked
  refine chunked.bind fun outcomes found => ?_
  refine Action.Keeps.ofExcept.bind fun items came => ?_
  refine Action.Keeps.ofExcept.trivial.andThen fun criteriaId => ?_
  refine Action.Keeps.note.andThen fun _ => keeps_measure.andThen fun _ => ?_
  exact .pure (found items came)

theorem keeps_warmUp {subjects : List Value} (pairs : ∀ subject ∈ subjects, P criteria subject) :
    Action.Keeps (OfStore I) (warmUp (σ := σ) settings (some criteria) subjects)
      fun _ => True := by
  have warmed : Action.Keeps (OfStore I)
      (Action.each (warm (σ := σ) settings criteria) subjects) fun _ => True := by
    refine (Action.Keeps.each (R := fun _ _ => True) subjects fun subject member => ?_).trivial
    refine (keeps_evaluate K fun _ => pairs subject member).attempt.bind fun outcome _ => ?_
    cases outcome with
    | ok _ => exact .pure True.intro
    | error failure =>
      dsimp only
      split
      · exact Action.Keeps.note.andThen fun _ => .pure True.intro
      · exact .pure True.intro
  refine warmed.andThen fun _ => Action.Keeps.ofExcept.trivial.andThen fun _ => ?_
  exact Action.Keeps.note.andThen fun _ => .pure True.intro

end Evaluate

/-! ### Upkeep -/

/-- There is no key without a criteria, so the question fails. -/
theorem keeps_withoutKey {f : String → Step (Service σ) α} : Action.Keeps (OfStore I)
    (Action.ofExcept (keyOfGiven settings none subject) >>= f) fun _ => True :=
  Action.Keeps.ofExcept.bind fun _ no => by cases no

/-- How a store drops the results of a criteria: by their tag, or with everything else. -/
def dropping [Store σ] (criteriaId : String) (store : σ) : Step σ Nat :=
  if Store.supportsTags store then Store.dropTag (criteriaTag criteriaId) else Store.flush

section Dropping

variable [Store σ]

theorem dropping_of_tags {criteriaId : String} {store : σ} (tags : Store.supportsTags store = true) :
    dropping criteriaId store = Store.dropTag (criteriaTag criteriaId) :=
  if_pos tags

theorem dropCriteria_apply (criteriaId : String) (s : Service σ) :
    dropCriteria criteriaId s = (inStore (dropping criteriaId s.store) >>= fun count => do
      countDropped (Event.modeText (Store.supportsTags s.store))
      Action.note (.invalidated (Store.supportsTags s.store) count)
      return count) s := by
  rw [dropCriteria, Action.bind_apply]
  unfold dropping
  cases tags : Store.supportsTags s.store <;> simp [Action.current, tags, Action.bind_apply]

theorem result_dropCriteria (criteriaId : String) (s : Service σ) :
    (dropCriteria criteriaId s).result = (dropping criteriaId s.store s.store).result := by
  have same : (inStore (dropping criteriaId s.store) s).result =
      (dropping criteriaId s.store s.store).result := rfl
  rw [dropCriteria_apply, Action.bind_apply, ← same]
  cases (inStore (dropping criteriaId s.store) s).result <;> rfl

theorem store_dropCriteria (criteriaId : String) (s : Service σ) :
    (dropCriteria criteriaId s).state.store = (dropping criteriaId s.store s.store).state := by
  rw [dropCriteria_apply, Action.bind_apply]
  cases (inStore (dropping criteriaId s.store) s).result <;> rfl

end Dropping

section Upkeep

variable [Store σ] {W : String → String → List String → Prop} (K : Store.Keeps I (IsKey settings) R W)

include K

/-- A result that is said to be stored is there. -/
theorem keeps_isStored : Action.Keeps (OfStore I)
    (isStored (σ := σ) settings (some criteria) subject) fun found =>
      found = true → ∃ key value, keyOf settings criteria subject = .ok key ∧ R key value := by
  refine Action.Keeps.ofExcept.bind fun key known => ?_
  refine (keeps_inStore (K.holds key ⟨_, _, known⟩)).weaken fun found held there => ?_
  obtain ⟨value, under⟩ := held there
  exact ⟨key, value, known, under⟩

theorem keeps_dropResult : Action.Keeps (OfStore I)
    (dropResult (σ := σ) settings (some criteria) subject) fun _ => True := by
  refine Action.Keeps.ofExcept.bind fun key known => ?_
  refine (keeps_inStore (K.delete key ⟨_, _, known⟩)).andThen fun _ => ?_
  exact keeps_measure.andThen fun _ => .pure True.intro

theorem keeps_dropCriteria (criteriaId : String) : Action.Keeps (OfStore I)
    (dropCriteria (σ := σ) criteriaId) fun _ => True := by
  refine fun s inv => ⟨?_, fun _ _ => True.intro⟩
  rw [OfStore, store_dropCriteria]
  unfold dropping
  split
  · exact (K.dropTag (criteriaTag criteriaId) s.store inv).1
  · next untagged => exact K.flush s.store inv (Bool.eq_false_iff.2 untagged)

end Upkeep

end Service
end Eligibility
