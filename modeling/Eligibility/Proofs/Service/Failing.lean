/-
# Failed evaluations leave a service clean

Whatever an evaluation fails with, no lock is held afterwards, nothing is traced to it any more, and
it is counted once under the code of its family (`failed_cleanly`).  What else it leaves depends on
how far it has come:

| it fails with | it leaves as they were |
| --- | --- |
| no criteria, a subject that is not accepted | the store, and all other counts |
| a look-up | the results that can be read back, and the count of evaluations |
| a put | nothing: the engine has returned, and the text may be there |

A look-up may throw a text away that cannot be read, so it is the results that stay, not the texts.
-/

import Eligibility.Proofs.Service.Families
import Eligibility.Proofs.Service.Tally

namespace Eligibility

/-- A chain whose rest always returns and changes nothing. -/
theorem Action.bind_of_quiet {ε σ α β : Type} {x : Action ε σ α} {f : α → Action ε σ β} {g : α → β}
    (quiet : ∀ a t, (f a t).result = .ok (g a) ∧ (f a t).state = t) (s : σ) :
    ((x >>= f) s).result = (x s).result.map g ∧ ((x >>= f) s).state = (x s).state := by
  rw [bind_apply]
  cases (x s).result with
  | error fault => exact ⟨rfl, rfl⟩
  | ok a => exact quiet a _

/-! ### Stores that fail -/

/-- A look-up failed: in finding a text, or in throwing one away that cannot be read. -/
inductive Failure.OfLookup : Failure → Prop where
  | notStarted : OfLookup .storeNotStarted
  | get (message : String) : OfLookup (.storeFailed message (some "get"))
  | delete (message : String) : OfLookup (.storeFailed message (some "delete"))

theorem Failure.not_ofLookup_put (message : String) :
    ¬OfLookup (.storeFailed message (some "put")) := by
  intro lookup
  generalize same : Failure.storeFailed message (some "put") = failure at lookup
  cases lookup with
  | notStarted => cases same
  | get => exact absurd (Failure.storeFailed.inj same).2 (by decide)
  | delete => exact absurd (Failure.storeFailed.inj same).2 (by decide)

/-- What a store leaves of the texts that it holds, when its operations may fail.  It is `up` once a
look-up has returned, and a put then fails as a put. -/
structure Store.Careful {σ : Type} [Store σ] (lifetime : Int) (view : σ → String → Option String)
    (up : σ → Prop) : Prop where
  get : ∀ s key, view (Store.get key s).state = view s ∧
    (∀ found, (Store.get key s).result = .ok found →
      found = view s key ∧ up (Store.get key s).state) ∧
    ∀ failure, (Store.get key s).result = .error failure → failure.Strange ∨ failure.OfLookup
  delete : ∀ s key, up s → up (Store.delete key s).state ∧
    (∀ k, view (Store.delete key s).state k = view s k ∨
      k = key ∧ view (Store.delete key s).state k = none) ∧
    ∀ failure, (Store.delete key s).result = .error failure → failure.Strange ∨ failure.OfLookup
  put : ∀ s key value tags failure, up s →
    (Store.put key value lifetime tags s).result = .error failure →
      failure.Strange ∨ ∃ message, failure = .storeFailed message (some "put")

namespace Memory

theorem live?_get (m : Memory) (key : String) : (m.get key).2.live? = m.live? := by
  unfold get
  cases there : m.live? key with
  | some value => rfl
  | none =>
    rw [live?_remove]
    exact Function.update_eq_self_iff.2 there.symm

/-- A look-up finds what is live. -/
theorem found_get (m : Memory) (key : String) : (m.get key).1 = m.live? key := by
  unfold get
  cases m.live? key <;> rfl

theorem careful (lifetime : Int) : Store.Careful (σ := Memory) lifetime live? fun _ => True where
  get m key := by
    refine ⟨live?_get m key, fun found came => ⟨?_, True.intro⟩, fun failure no => by cases no⟩
    obtain rfl : (m.get key).1 = found := Except.ok.inj came
    exact found_get m key
  delete m key _ := by
    refine ⟨True.intro, fun k => ?_, fun failure no => by cases no⟩
    change (m.remove key).live? k = _ ∨ k = key ∧ (m.remove key).live? k = none
    rw [live?_remove, Function.update_apply]
    by_cases same : k = key
    · rw [if_pos same]
      exact .inr ⟨same, rfl⟩
    · rw [if_neg same]
      exact .inl rfl
  put m key value tags failure _ came := by
    change (putFor key value lifetime tags m).result = _ at came
    unfold putFor expiry at came
    split at came
    · cases came
    · next other ended =>
      split at ended
      · cases ended
      · obtain rfl := Except.error.inj ended
        obtain rfl := Except.error.inj came
        exact .inl rfl

end Memory

namespace Shared

open Client

variable {α : Type} {s : Shared}

/-- There is no client, or the client carries the exchange of an operation out as far as it does not
fail. -/
theorem operation_cases (name : String) (x : Shared → Exchange α) (s : Shared) :
    s.client = none ∧ (operation name x s).result = .error .storeNotStarted ∧
        (operation name x s).state = s ∨
      ∃ c, s.client = some c ∧
        (operation name x s).state = { s with client := some (x s c).state } ∧
        ((∃ a, (x s c).result = .ok a ∧ (operation name x s).result = .ok a) ∨
          ∃ failure, (operation name x s).result = .error failure ∧
            (failure.Strange ∨ ∃ message, failure = .storeFailed message (some name))) := by
  cases there : s.client with
  | none =>
    unfold operation
    rw [Action.bind_apply, onClient, there]
    exact .inl ⟨rfl, rfl, rfl⟩
  | some c =>
    obtain ⟨result, state⟩ := operation_comes name x there
    refine .inr ⟨c, rfl, state, ?_⟩
    rw [result]
    cases (x s c).result with
    | ok a => exact .inl ⟨a, rfl, rfl⟩
    | error fault =>
      refine .inr ⟨failureOf name fault, rfl, ?_⟩
      unfold failureOf
      split
      · exact .inr ⟨_, rfl⟩
      · exact .inl rfl

theorem held_of_still {c d : Client} (there : s.client = some c) (still : Still c d) :
    ({ s with client := some d } : Shared).held = s.held := by
  rw [held_of_client there, held_of_client rfl, still.values]
  rfl

theorem get_apply (key : String) (s : Shared) :
    let read := operation "get" (fun s => Client.value (s.keyOf key)) s
    (get key s).result = read.result.map id ∧ (get key s).state = read.state := by
  refine Action.bind_of_quiet (fun found t => ?_) s
  cases found <;> exact ⟨rfl, rfl⟩

theorem delete_apply (key : String) (s : Shared) :
    let removed := operation "delete" (fun s => Client.remove [s.keyOf key]) s
    (delete key s).result = removed.result.map (fun count => decide (count > 0)) ∧
      (delete key s).state = removed.state :=
  Action.bind_of_quiet (fun _ _ => ⟨rfl, rfl⟩) s

theorem put_apply (key value : String) (lifetime : Int) (tags : List String) (s : Shared) :
    let kept := operation "put" (fun s => putting s key value lifetime tags) s
    (put key value lifetime tags s).result = kept.result.map id ∧
      (put key value lifetime tags s).state = kept.state :=
  Action.bind_of_quiet (fun _ _ => ⟨rfl, rfl⟩) s

theorem careful (lifetime : Int) : Store.Careful lifetime held fun s => s.client.isSome where
  get s key := by
    obtain ⟨result, state⟩ := get_apply key s
    change held (get key s).state = _ ∧ (∀ found, (get key s).result = _ → found = _ ∧
      (get key s).state.client.isSome) ∧ ∀ failure, (get key s).result = _ → _
    rw [result, state]
    obtain ⟨-, failed, left⟩ | ⟨c, there, left, came⟩ :=
      operation_cases "get" (fun s => Client.value (s.keyOf key)) s
    · rw [failed, left]
      refine ⟨rfl, fun _ no => ?_, fun failure same => .inr ?_⟩
      · cases no
      · obtain rfl := Except.error.inj same
        exact .notStarted
    · obtain ⟨still, found⟩ := value_cases (s.keyOf key) c
      rw [left]
      refine ⟨held_of_still there still, ?_⟩
      obtain ⟨value?, read, came⟩ | ⟨failure, came, kind⟩ := came
      · rw [came]
        refine ⟨fun value?' same => ?_, fun _ no => ?_⟩
        · obtain rfl := Except.ok.inj same
          rw [held_of_client there]
          exact ⟨found _ read, rfl⟩
        · cases no
      · rw [came]
        refine ⟨fun _ no => ?_, fun failure' same => ?_⟩
        · cases no
        · obtain rfl := Except.error.inj same
          refine kind.imp_right ?_
          rintro ⟨message, rfl⟩
          exact .get message
  delete s key up := by
    obtain ⟨result, state⟩ := delete_apply key s
    change (delete key s).state.client.isSome ∧
      (∀ k, held (delete key s).state k = _ ∨ _ ∧ held (delete key s).state k = _) ∧
      ∀ failure, (delete key s).result = _ → _
    rw [result, state]
    obtain ⟨none, -, -⟩ | ⟨c, there, left, came⟩ :=
      operation_cases "delete" (fun s => Client.remove [s.keyOf key]) s
    · rw [none] at up
      cases up
    · rw [left]
      refine ⟨rfl, fun k => ?_, fun failure failed => ?_⟩
      · rw [held_of_client there, held_of_client rfl]
        change (remove [s.keyOf key] c).state.values.get? (s.keyOf k) = _ ∨
          k = key ∧ (remove [s.keyOf key] c).state.values.get? (s.keyOf k) = none
        obtain ⟨-, -, ⟨-, kept⟩ | ⟨-, gone⟩⟩ := remove_cases [s.keyOf key] c
        · rw [kept.values]
          exact .inl rfl
        · rw [gone.values]
          simp only [List.mem_singleton, keyOf_inj]
          by_cases same : k = key
          · rw [if_pos same]
            exact .inr ⟨same, rfl⟩
          · rw [if_neg same]
            exact .inl rfl
      · obtain ⟨count, -, came⟩ | ⟨failure, came, kind⟩ := came
        · rw [came] at failed
          cases failed
        · rw [came] at failed
          obtain rfl := Except.error.inj failed
          refine kind.imp_right ?_
          rintro ⟨message, rfl⟩
          exact .delete message
  put s key value tags failure up failed := by
    change (put key value lifetime tags s).result = _ at failed
    rw [(put_apply ..).1] at failed
    obtain ⟨none, -, -⟩ | ⟨c, there, left, ⟨_, -, came⟩ | ⟨failure, came, kind⟩⟩ :=
      operation_cases "put" (fun s => putting s key value lifetime tags) s
    · rw [none] at up
      cases up
    · rw [came] at failed
      cases failed
    · rw [came] at failed
      obtain rfl := Except.error.inj failed
      exact kind

end Shared

/-! ### Parts of an evaluation -/

namespace Service

variable {σ α β : Type}

/-- An action ends in `Q`. -/
def Ends (x : Step (Service σ) α) (s : Service σ) (Q : Except Failure α → Service σ → Prop) :
    Prop :=
  Q (x s).result (x s).state

theorem Ends.bind {x : Step (Service σ) α} {f : α → Step (Service σ) β} {s : Service σ}
    {P : Except Failure α → Service σ → Prop} {Q : Except Failure β → Service σ → Prop}
    (first : Ends x s P) (failed : ∀ failure t, P (.error failure) t → Q (.error failure) t)
    (rest : ∀ a t, P (.ok a) t → Ends (f a) t Q) : Ends (x >>= f) s Q := by
  unfold Ends at first rest ⊢
  rw [Action.bind_apply]
  cases came : (x s).result with
  | error failure =>
    rw [came] at first
    exact failed failure _ first
  | ok a =>
    rw [came] at first
    exact rest a _ first

theorem Ends.noting {event : Event} {f : Unit → Step (Service σ) α} {s : Service σ}
    {Q : Except Failure α → Service σ → Prop} (rest : Ends (f ()) s Q) :
    Ends (Action.note event >>= f) s Q := rest

theorem ends_ofExcept (x : Except Failure α) (s : Service σ) :
    Ends (Action.ofExcept x) s fun r t => t = s ∧ r = x := ⟨rfl, rfl⟩

theorem ends_accept (settings : Settings) (subject : Value) (s : Service σ) :
    Ends (accept settings subject) s fun r t => t = s ∧ r = accepted settings subject :=
  ⟨(accept_eq settings subject s).2, (accept_eq settings subject s).1⟩

/-- The first part of an evaluation through the store comes to what its look-up does, unless the
subject is not accepted or has no key. -/
theorem Ends.embarking [Store σ] {settings : Settings} {criteria : Criteria} {subject : Value}
    {s : Service σ} {P : String → Except Failure (Option Evaluation) → Service σ → Prop}
    {Q : Except Failure Progress → Service σ → Prop}
    (refused : ∀ failure, accepted settings subject = .error failure → Q (.error failure) s)
    (withoutKey : ∀ failure, keyOf settings criteria subject = .error failure →
      Q (.error failure) s)
    (looked : ∀ key, keyOf settings criteria subject = .ok key →
      Ends (lookup key true) s (P key))
    (failed : ∀ key failure t, P key (.error failure) t → Q (.error failure) t)
    (found : ∀ key e t, P key (.ok (some e)) t → Q (.ok (.done e)) t)
    (missed : ∀ key t, P key (.ok none) t → Q (.ok (.pending key)) (lock key t)) :
    Ends (embark settings criteria subject true) s Q := by
  refine (ends_accept settings subject s).bind ?_ ?_
  · rintro failure t ⟨rfl, came⟩
    exact refused failure came.symm
  rintro _ t ⟨rfl, -⟩
  refine (ends_ofExcept (keyOf settings criteria subject) t).bind ?_ ?_
  · rintro failure u ⟨rfl, came⟩
    exact withoutKey failure came.symm
  rintro key u ⟨rfl, known⟩
  refine (looked key known.symm).bind (failed key) fun found? v here => ?_
  cases found? with
  | some e => exact found key e v here
  | none => exact missed key v here

/-- No failure is counted, and the locks stay. -/
structure Unreported (s t : Service σ) : Prop where
  locks : t.locks = s.locks
  named : t.metrics.service = s.metrics.service
  errors : ∀ labels, t.metrics.count .errors labels = s.metrics.count .errors labels

/-- The results that can be read back stay, and no evaluation is counted. -/
structure Spared (view : σ → String → Option String) (s t : Service σ) : Prop where
  held : (books view t).held = (books view s).held
  runs : ∀ labels, t.metrics.count .evaluations labels = s.metrics.count .evaluations labels

/-- Nothing has happened but look-ups. -/
structure Searched (view : σ → String → Option String) (s t : Service σ) : Prop extends
  Unreported s t, Spared view s t

variable {view : σ → String → Option String} {up : σ → Prop} {s t u : Service σ}

theorem Unreported.trans (first : Unreported s t) (later : Unreported t u) : Unreported s u where
  locks := later.locks.trans first.locks
  named := later.named.trans first.named
  errors labels := (later.errors labels).trans (first.errors labels)

theorem Spared.trans (first : Spared view s t) (later : Spared view t u) : Spared view s u where
  held := later.held.trans first.held
  runs labels := (later.runs labels).trans (first.runs labels)

theorem Searched.trans (first : Searched view s t) (later : Searched view t u) :
    Searched view s u where
  toUnreported := first.toUnreported.trans later.toUnreported
  toSpared := first.toSpared.trans later.toSpared

theorem Searched.refl (view : σ → String → Option String) (s : Service σ) : Searched view s s :=
  ⟨⟨rfl, rfl, fun _ => rfl⟩, ⟨rfl, fun _ => rfl⟩⟩

/-- What the rest of an evaluation has failed with, once its subject was accepted, and what it has
left by then. -/
inductive Fate (view : σ → String → Option String) (s t : Service σ) : Failure → Prop where
  | lookedUp {failure : Failure} (lookup : failure.OfLookup) (spared : Spared view s t) :
    Fate view s t failure
  | put (message : String) : Fate view s t (.storeFailed message (some "put"))
  | strange {failure : Failure} (family : failure.Strange) : Fate view s t failure

theorem Fate.imp {s' t' : Service σ} {failure : Failure} (fate : Fate view s t failure)
    (later : Spared view s t → Spared view s' t') : Fate view s' t' failure := by
  cases fate with
  | lookedUp lookup spared => exact .lookedUp lookup (later spared)
  | put message => exact .put message
  | strange family => exact .strange family

/-- What is counted by one counter is not by another. -/
theorem count_increment_of_ne {c d : Counter} (other : d ≠ c) (m : Metrics)
    (values labels : List String) : (m.increment c values).count d labels = m.count d labels := by
  rw [Metrics.count_increment, if_neg]
  rintro ⟨⟩
  exact other rfl

/-- Counting a look-up, whichever way it went. -/
theorem searched_increment {c : Counter} (other : c ≠ .errors ∧ c ≠ .evaluations)
    (values : List String) (hits misses : Nat) (s : Service σ) : Searched view s
      (withRatio { s with hits, misses, metrics := s.metrics.increment c values }) := by
  have same (x : Double) (d : Counter) (labels : List String) :
      ({ s.metrics.increment c values with hitRatio := x } : Metrics).count d labels =
        (s.metrics.increment c values).count d labels := rfl
  refine ⟨⟨rfl, rfl, fun labels => ?_⟩, ⟨rfl, fun labels => ?_⟩⟩
  · exact (same ..).trans (count_increment_of_ne other.1.symm s.metrics values labels)
  · exact (same ..).trans (count_increment_of_ne other.2.symm s.metrics values labels)

/-- What the engine fails with is of no family, and the store is left alone. -/
theorem ends_compute (settings : Settings) (criteria : Criteria) (subject : Value) (s : Service σ) :
    Ends (compute settings criteria subject) s fun r t => Unreported s t ∧ t.store = s.store ∧
      ∀ failure, r = .error failure → failure.Strange := by
  have evaluated : Ends ((Step.ofTrial (criteria.evaluate settings subject)).ending
      fun s => { s with metrics := s.metrics.observe .zero }) s fun r t => Unreported s t ∧
        t.store = s.store ∧ ∀ failure, r = .error failure → failure.Strange :=
    ⟨⟨rfl, rfl, fun _ => rfl⟩, rfl, criteria.failsIn_evaluate settings subject⟩
  refine evaluated.bind (fun failure t ended => ?_) fun e t ⟨unreported, store, _⟩ => ?_
  · exact ⟨ended.1, ended.2.1, fun other same => ended.2.2 other (Except.error.inj same ▸ rfl)⟩
  · refine ⟨⟨unreported.locks, unreported.named, fun labels => ?_⟩, store, fun failure no => ?_⟩
    · exact (count_increment_of_ne (by decide) t.metrics _ labels).trans (unreported.errors labels)
    · cases no

/-- What a look-up comes to. -/
structure Looked (view : σ → String → Option String) (up : σ → Prop) (s : Service σ)
    (r : Except Failure α) (t : Service σ) : Prop where
  searched : Searched view s t
  up : ∀ a, r = .ok a → up t.store
  failed : ∀ failure, r = .error failure → failure.Strange ∨ failure.OfLookup

theorem Looked.error {failure : Failure}
    (looked : Looked view up s (.error failure : Except _ α) t) :
    Looked view up s (.error failure : Except _ β) t where
  searched := looked.searched
  up _ no := by cases no
  failed other same := looked.failed other (Except.error.inj same ▸ rfl)

theorem Looked.ok {a : α} (searched : Searched view s t) (isUp : up t.store) :
    Looked view up s (.ok a) t where
  searched := searched
  up _ _ := isUp
  failed _ no := by cases no

theorem family_of_accepted {settings : Settings} {subject : Value} {failure : Failure}
    (refused : accepted settings subject = .error failure) :
    failure.family? = some .validation := by
  unfold accepted at refused
  split at refused
  · exact Subject.failsIn_validate settings subject failure refused
  · cases refused

section Parts

variable [Store σ] {settings : Settings} {criteria : Criteria} {subject : Value}
  (careful : Store.Careful settings.lifetime view up)

include careful

theorem ends_get (key : String) (s : Service σ) :
    Ends (inStore (Store.get key)) s fun r t => Looked view up s r t ∧
      view t.store = view s.store ∧ ∀ found, r = .ok found → found = view s.store key := by
  obtain ⟨same, found, failed⟩ := careful.get s.store key
  have searched : Searched view s (inStore (Store.get key) s).state := by
    refine ⟨⟨rfl, rfl, fun _ => rfl⟩, ?_, fun _ => rfl⟩
    simp only [books, ← same]
    rfl
  exact ⟨⟨searched, fun _ came => (found _ came).2, failed⟩, same, fun _ came => (found _ came).1⟩

/-- A text that cannot be read is thrown away. -/
theorem ends_delete {key stored : String} (isUp : up s.store)
    (there : view s.store key = some stored) (unreadable : Evaluation.ofStored? stored = none) :
    Ends (inStore (Store.delete key)) s (Looked view up s) := by
  obtain ⟨stays, gone, failed⟩ := careful.delete s.store key isUp
  have searched : Searched view s (inStore (Store.delete key) s).state := by
    refine ⟨⟨rfl, rfl, fun _ => rfl⟩, ?_, fun _ => rfl⟩
    funext k
    change (view (Store.delete key s.store).state k).bind _ = (view s.store k).bind _
    obtain same | ⟨rfl, none⟩ := gone k
    · rw [same]
    · rw [none, there]
      exact unreadable.symm
  exact ⟨searched, fun _ _ => stays, failed⟩

theorem ends_fetch (key : String) (s : Service σ) : Ends (fetch key) s (Looked view up s) := by
  refine (ends_get careful key s).bind (fun _ _ looked => looked.1.error) ?_
  rintro found t ⟨looked, same, there⟩
  have isUp := looked.up _ rfl
  cases found with
  | none => exact .ok looked.searched isUp
  | some stored =>
    dsimp only
    cases read : Evaluation.ofStored? stored with
    | some e => exact .ok looked.searched isUp
    | none =>
      have held : view t.store key = some stored := same ▸ (there _ rfl).symm
      refine Ends.noting ((ends_delete careful isUp held read).bind ?_ ?_)
      · intro failure u deleted
        exact ⟨looked.searched.trans deleted.searched, deleted.error.up, deleted.error.failed⟩
      · intro _ u deleted
        exact .ok (looked.searched.trans deleted.searched) (deleted.up _ rfl)

theorem ends_lookup (key : String) (countMisses : Bool) (s : Service σ) :
    Ends (lookup key countMisses) s (Looked view up s) := by
  refine (ends_fetch careful key s).bind (fun _ _ looked => looked.error) ?_
  intro found t looked
  have isUp := looked.up _ rfl
  cases found with
  | some e => exact .ok (looked.searched.trans (searched_increment (by decide) _ _ _ t)) isUp
  | none =>
    cases countMisses with
    | false => exact .ok looked.searched isUp
    | true => exact .ok (looked.searched.trans (searched_increment (by decide) _ _ _ t)) isUp

theorem ends_keep (isUp : up s.store) (key : String) (e : Evaluation) :
    Ends (keep settings criteria key e) s fun r t => Unreported s t ∧
      ∀ failure, r = .error failure →
        failure.Strange ∨ ∃ message, failure = .storeFailed message (some "put") := by
  refine (ends_ofExcept e.stored s).bind ?_ ?_
  · rintro failure t ⟨rfl, came⟩
    refine ⟨⟨rfl, rfl, fun _ => rfl⟩, fun other same => .inl ?_⟩
    exact Evaluation.strange_of_stored (Except.error.inj same ▸ came.symm)
  · rintro text t ⟨rfl, -⟩
    refine ⟨⟨rfl, rfl, fun _ => rfl⟩, fun failure failed => ?_⟩
    exact careful.put t.store key text (tagsOf criteria) failure isUp failed

/-- What is settled fails in a look-up, in the engine, or in a put. -/
theorem ends_settle (criteria : Criteria) (subject : Value) (key : String) (s : Service σ) :
    Ends (settle settings criteria subject key) s fun r t => Unreported s t ∧
      ∀ failure, r = .error failure → Fate view s t failure := by
  refine (ends_lookup careful key false s).bind ?_ ?_
  · intro failure t looked
    refine ⟨looked.searched.toUnreported, fun other same => ?_⟩
    obtain strange | lookup := looked.failed other (Except.error.inj same ▸ rfl)
    · exact .strange strange
    · exact .lookedUp lookup looked.searched.toSpared
  · intro found t looked
    have isUp := looked.up _ rfl
    have before := looked.searched.toUnreported
    cases found with
    | some e => exact ⟨before, fun _ no => by cases no⟩
    | none =>
      refine (ends_compute settings criteria subject t).bind ?_ ?_
      · rintro failure u ⟨unreported, -, strange⟩
        exact ⟨before.trans unreported, fun other same =>
          .strange (strange other (Except.error.inj same ▸ rfl))⟩
      · rintro e u ⟨unreported, store, -⟩
        refine (ends_keep careful (store ▸ isUp) key e).bind ?_ ?_
        · rintro failure v ⟨last, kind⟩
          refine ⟨(before.trans unreported).trans last, fun other same => ?_⟩
          obtain strange | ⟨message, rfl⟩ := kind other (Except.error.inj same ▸ rfl)
          · exact .strange strange
          · exact .put message
        · rintro _ v ⟨last, -⟩
          exact ⟨(before.trans unreported).trans last, fun _ no => by cases no⟩

/-- How an evaluation stands after its first part. -/
def Embarked (view : σ → String → Option String) (s : Service σ) (r : Except Failure Progress)
    (t : Service σ) : Prop :=
  match r with
  | .ok (.done _) => Unreported s t
  | .ok (.pending key) => ∃ u, Searched view s u ∧ t = lock key u
  | .error failure => Unreported s t ∧
    (failure.family? = some .validation ∧ t = s ∨ Fate view s t failure)

theorem ends_embark (subject : Value) (useStore : Bool) (s : Service σ) :
    Ends (embark settings criteria subject useStore) s (Embarked view s) := by
  have still := (Searched.refl view s).toUnreported
  cases useStore with
  | false =>
    refine (ends_accept settings subject s).bind ?_ ?_
    · rintro failure t ⟨rfl, refused⟩
      exact ⟨still, .inl ⟨family_of_accepted refused.symm, rfl⟩⟩
    rintro _ t ⟨rfl, -⟩
    refine (ends_compute settings criteria subject t).bind ?_ ?_
    · rintro failure u ⟨unreported, -, strange⟩
      exact ⟨unreported, .inr (.strange (strange failure rfl))⟩
    · rintro e u ⟨unreported, -, -⟩
      exact unreported
  | true =>
    refine Ends.embarking (P := fun _ => Looked view up s) ?_ ?_ ?_ ?_ ?_ ?_
    · exact fun failure refused => ⟨still, .inl ⟨family_of_accepted refused, rfl⟩⟩
    · exact fun failure came => ⟨still, .inr (.strange (strange_of_keyOf came))⟩
    · exact fun key _ => ends_lookup careful key true s
    · intro key failure t looked
      refine ⟨looked.searched.toUnreported, .inr ?_⟩
      obtain strange | lookup := looked.failed failure rfl
      · exact .strange strange
      · exact .lookedUp lookup looked.searched.toSpared
    · exact fun key e t looked => looked.searched.toUnreported
    · exact fun key t looked => ⟨t, looked.searched, rfl⟩

/-- How an evaluation stands at its end, before its failure is reported. -/
structure Ended (view : σ → String → Option String) (s : Service σ) (r : Except Failure Evaluation)
    (t : Service σ) : Prop where
  locks : s.locks = [] → t.locks = []
  named : t.metrics.service = s.metrics.service
  errors : ∀ labels, t.metrics.count .errors labels = s.metrics.count .errors labels
  fate : ∀ failure, r = .error failure →
    failure.family? = some .validation ∧ t = s ∨ Fate view s t failure

omit [Store σ] careful in
theorem Unreported.ended {r : Except Failure Evaluation} (unreported : Unreported s t)
    (fate : ∀ failure, r = .error failure →
      failure.family? = some .validation ∧ t = s ∨ Fate view s t failure) : Ended view s r t where
  locks none := unreported.locks.trans none
  named := unreported.named
  errors := unreported.errors
  fate := fate

theorem ends_evaluation (subject : Value) (useStore : Bool) (s : Service σ) :
    Ends (embark settings criteria subject useStore >>= conclude settings criteria subject) s
      (Ended view s) := by
  refine (ends_embark careful subject useStore s).bind ?_ ?_
  · rintro failure t ⟨unreported, fate⟩
    exact unreported.ended fun other same => Except.error.inj same ▸ fate
  intro progress t embarked
  cases progress with
  | done e => exact Unreported.ended embarked fun _ no => by cases no
  | pending key =>
    obtain ⟨u, searched, rfl⟩ := embarked
    obtain ⟨unreported, fate⟩ := ends_settle careful criteria subject key (lock key u)
    refine ⟨fun none => ?_, ?_, ?_, fun failure failed => .inr ?_⟩
    · have held : (lock key u).locks = [key] := by simp [lock, searched.locks, none]
      change (settle settings criteria subject key (lock key u)).state.locks.filter _ = _
      rw [unreported.locks, held]
      simp
    · exact unreported.named.trans searched.named
    · exact fun labels => (unreported.errors labels).trans (searched.errors labels)
    · exact (fate failure failed).imp fun spared =>
        ⟨spared.held.trans searched.held, fun labels =>
          (spared.runs labels).trans (searched.runs labels)⟩

end Parts

/-! ### Failures -/

/-- Of what is counted and stored, a failure has changed the count of its family alone. -/
structure Reported (failure : Failure) (s t : Service σ) : Prop where
  store : t.store = s.store
  locks : t.locks = s.locks
  hits : t.hits = s.hits
  misses : t.misses = s.misses
  others : ∀ c ≠ .errors, ∀ labels, t.metrics.count c labels = s.metrics.count c labels
  errors : ∀ labels, t.metrics.count .errors labels = s.metrics.count .errors labels +
    if failure.family?.map (fun family => [family.code, s.metrics.service]) = some labels then 1
    else 0

theorem reported_recordError {failure : Failure} {family : Failure.Family}
    (known : failure.family? = some family) (s : Service σ) :
    Reported failure s { s with metrics := s.metrics.recordError family.code } where
  store := rfl
  locks := rfl
  hits := rfl
  misses := rfl
  others c other labels := count_increment_of_ne other s.metrics _ labels
  errors labels := by
    have own : s.metrics.serviceOr none = s.metrics.service := rfl
    rw [Metrics.recordError, Metrics.count_increment, known, own, Option.map_some]
    by_cases same : labels = [family.code, s.metrics.service]
    · rw [same, if_pos rfl, if_pos rfl]
    · rw [if_neg (by simpa using same), if_neg (by simpa using Ne.symm same)]
      rfl

theorem reported_report (failure : Failure) (s : Service σ) :
    Reported failure s (report failure s).state := by
  unfold report
  cases known : failure.family? with
  | none => exact ⟨rfl, rfl, rfl, rfl, fun _ _ _ => rfl, fun _ => by simp [known]⟩
  | some family =>
    dsimp only
    split
    · exact reported_recordError known s
    · exact reported_recordError known s

/-- What a failed evaluation leaves. -/
structure FailedCleanly (view : σ → String → Option String) (failure : Failure) (s t : Service σ) :
    Prop where
  locks : t.locks = []
  context : t.context = {}
  /-- The failure is counted once under the code of its family, and nothing else is. -/
  errors : ∀ labels, t.metrics.count .errors labels = s.metrics.count .errors labels +
    if failure.family?.map (fun family => [family.code, s.metrics.service]) = some labels then 1
    else 0
  refused : failure.family? = some .criteriaNotFound ∨ failure.family? = some .validation →
    t.store = s.store ∧ t.hits = s.hits ∧ t.misses = s.misses ∧
      ∀ c ≠ .errors, ∀ labels, t.metrics.count c labels = s.metrics.count c labels
  lookedUp : failure.OfLookup → Spared view s t
  /-- The store fails in a look-up or in a put. -/
  inStore : failure.family? = some .store →
    failure.OfLookup ∨ ∃ message, failure = .storeFailed message (some "put")

theorem family_of_lookup {failure : Failure} (lookup : failure.OfLookup) :
    failure.family? = some .store := by
  cases lookup <;> rfl

theorem Fate.family {failure : Failure} (fate : Fate view s t failure) :
    failure.family? = some .store ∨ failure.family? = none := by
  cases fate with
  | lookedUp lookup => exact .inl (family_of_lookup lookup)
  | put message => exact .inl rfl
  | strange family => exact .inr family

theorem failedCleanly_withoutCriteria {s : Service σ} (locks : s.locks = [])
    (context : s.context = {}) : FailedCleanly view (.noCriteria .evaluation) s
      (withoutCriteria (α := Evaluation) s).state := by
  have reported : Reported (.noCriteria .evaluation) s
      (withoutCriteria (α := Evaluation) s).state := reported_recordError rfl s
  exact {
    locks := locks
    context := context
    errors := reported.errors
    refused := fun _ => ⟨rfl, rfl, rfl, reported.others⟩
    lookedUp := fun lookup => by cases lookup
    inStore := fun no => by cases no }

/-- An evaluation has failed in its context, and its failure is reported. -/
theorem failedCleanly_of_ended {criteria : Criteria} {failure : Failure} (locks : s.locks = [])
    (ended : Ended view (openContext criteria s) (.error failure) t) :
    FailedCleanly view failure s (closeContext (report failure t).state) := by
  have reported := reported_report failure t
  have errors (labels : List String) := reported.errors labels
  simp only [ended.errors, ended.named] at errors
  have fate := ended.fate failure rfl
  constructor
  · exact reported.locks.trans (ended.locks locks)
  · rfl
  · exact errors
  · rintro family
    obtain ⟨-, rfl⟩ | fate := fate
    · exact ⟨reported.store, reported.hits, reported.misses, reported.others⟩
    · obtain here | here := fate.family <;> simp [here] at family
  · intro lookup
    have family := family_of_lookup lookup
    obtain ⟨other, -⟩ | ⟨-, spared⟩ | message | strange := fate
    · rw [family] at other
      cases other
    · refine ⟨?_, fun labels => (reported.others _ (by decide) labels).trans (spared.runs labels)⟩
      have same := spared.held
      simp only [books, ← reported.store] at same
      exact same
    · exact absurd lookup (Failure.not_ofLookup_put message)
    · rw [Failure.Strange, family] at strange
      cases strange
  · intro family
    obtain ⟨other, -⟩ | ⟨lookup, -⟩ | message | strange := fate
    · rw [family] at other
      cases other
    · exact .inl lookup
    · exact .inr ⟨message, rfl⟩
    · rw [Failure.Strange, family] at strange
      cases strange

/-- What an evaluation leaves when it fails, over any store that is careful when it fails. -/
theorem failedCleanly_evaluate [Store σ] {settings : Settings}
    (careful : Store.Careful settings.lifetime view up) {criteria? : Option Criteria}
    {subject : Value} {useStore? : Option Bool} {s : Service σ} (locks : s.locks = [])
    (context : s.context = {}) {failure : Failure}
    (failed : (evaluate settings criteria? subject useStore? s).result = .error failure) :
    FailedCleanly view failure s (evaluate settings criteria? subject useStore? s).state := by
  cases criteria? with
  | none =>
    obtain rfl := Except.error.inj failed
    exact failedCleanly_withoutCriteria locks context
  | some criteria =>
    let part : Step (Service σ) Evaluation :=
      embark settings criteria subject (useStore?.getD settings.storeResults) >>=
        conclude settings criteria subject
    obtain ⟨result, state⟩ := attended_apply criteria part s
    have ended : Ended view (openContext criteria s) (part (openContext criteria s)).result
        (part (openContext criteria s)).state := ends_evaluation careful subject _ _
    generalize part (openContext criteria s) = came at result state ended
    have failed' : came.result = .error failure := result.symm.trans failed
    rw [failed'] at state ended
    change FailedCleanly view failure s (attended criteria part s).state
    rw [state]
    exact failedCleanly_of_ended locks ended

/-- **Failed evaluations leave a service clean**, over a store in memory and over one behind a
client that may fail at every command. -/
theorem failed_cleanly (settings : Settings) (criteria? : Option Criteria) (subject : Value)
    (useStore? : Option Bool) :
    (∀ s : Service Memory, s.locks = [] → s.context = {} → ∀ failure,
      (evaluate settings criteria? subject useStore? s).result = .error failure →
        FailedCleanly Memory.live? failure s
          (evaluate settings criteria? subject useStore? s).state) ∧
    ∀ s : Service Shared, s.locks = [] → s.context = {} → ∀ failure,
      (evaluate settings criteria? subject useStore? s).result = .error failure →
        FailedCleanly Shared.held failure s
          (evaluate settings criteria? subject useStore? s).state :=
  ⟨fun _ locks context _ => failedCleanly_evaluate (Memory.careful _) locks context,
    fun _ locks context _ => failedCleanly_evaluate (Shared.careful _) locks context⟩

/-- A service behind a client that fails its next look-up. -/
def severed : Service Shared where
  store := {
    client := some (Client.failNext { page_pos := Nat.two_pos } "get"
      ⟨"ConnectionError", "refused", true⟩) }

/-- A subject that is no map, and a client that fails. -/
theorem failed_cleanly_severed :
    FailedCleanly Memory.live? (.subjectNotMap "NoneType") { store := {} }
        (evaluate {} (some adults) .null (some true) { store := ({} : Memory) }).state ∧
      ∃ failure, (evaluate {} (some adults) twenty (some true) severed).result = .error failure ∧
        failure.family? = some .store ∧ FailedCleanly Shared.held failure severed
          (evaluate {} (some adults) twenty (some true) severed).state := by
  have refused : (evaluate {} (some adults) .null (some true) { store := ({} : Memory) }).result =
      .error (.subjectNotMap "NoneType") := rfl
  refine ⟨(failed_cleanly {} (some adults) .null (some true)).1 _ rfl rfl _ refused, ?_⟩
  have raised : Failure.familyOf? (evaluate {} (some adults) twenty (some true) severed).result =
      some .store := by
    decide +kernel
  cases came : (evaluate {} (some adults) twenty (some true) severed).result with
  | ok e =>
    rw [came] at raised
    cases raised
  | error failure =>
    rw [came] at raised
    refine ⟨failure, rfl, raised, ?_⟩
    exact (failed_cleanly {} (some adults) twenty (some true)).2 severed rfl rfl failure came

end Service
end Eligibility
