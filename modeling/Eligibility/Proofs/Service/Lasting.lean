/-
# Services over a store that lasts

A store lasts while nothing in it is over and nothing fails (`Store.Lasting`): a look-up finds what
was put last, a put succeeds and changes nothing but its key.  Of a service over such a store this
much is followed (`Books`): the results that can be read back from the texts under their keys, the
locks, how many look-ups were answered and how often the engine was run.

| part of an evaluation | results | locks | hits | runs |
| --- | --- | --- | --- | --- |
| a look-up that finds its key | | | one more | |
| a look-up that does not | | | | |
| the first part, when the key is not found | | the key | | |
| the result of a key is computed and kept | that of the key | | | one more |

A text that cannot be read is no result: the look-up that comes across it throws it away.

Both kinds of store last: one in memory (`Memory.lasting`), and one behind a client that never fails
(`Shared.lasting`).
-/

import Eligibility.Proofs.Record.RoundTrip
import Eligibility.Proofs.Service.Faults
import Eligibility.Proofs.Store.Obeyed
import Mathlib.Logic.Function.Basic

namespace Eligibility

/-- A store in `I` holds texts: `view` tells which. `steady` tells what may happen to it from
outside without anything being lost. -/
structure Store.Lasting {σ : Type} [Store σ] (lifetime : Int) (I : σ → Prop)
    (view : σ → String → Option String) (steady : σ → σ → Prop) : Prop where
  get : ∀ s key, I s → (Store.get key s).result = .ok (view s key) ∧ I (Store.get key s).state ∧
    view (Store.get key s).state = view s
  put : ∀ s key value tags, I s → (Store.put key value lifetime tags s).result = .ok () ∧
    I (Store.put key value lifetime tags s).state ∧
    view (Store.put key value lifetime tags s).state = Function.update (view s) key (some value)
  delete : ∀ s key, I s → (∃ there, (Store.delete key s).result = .ok there) ∧
    I (Store.delete key s).state ∧
    view (Store.delete key s).state = Function.update (view s) key none
  steady : ∀ s s', I s → steady s s' → I s' ∧ view s' = view s

namespace Service

variable {σ α β : Type}

/-- What is followed of a service. -/
structure Books where
  /-- The result that can be read back from the text under a key. -/
  held : String → Option Evaluation
  locks : List String
  hits : Nat
  /-- How often the engine was run. -/
  runs : Nat

/-- The books of a service. -/
def books (view : σ → String → Option String) (s : Service σ) : Books where
  held key := (view s.store key).bind Evaluation.ofStored?
  locks := s.locks
  hits := s.hits
  runs := s.metrics.durationCount

theorem counts_of_books {view : σ → String → Option String} {s : Service σ} {b : Books}
    (same : books view s = b) : s.hits = b.hits ∧ s.metrics.durationCount = b.runs := by
  subst same
  exact ⟨rfl, rfl⟩

/-- An action returns `a`, and leaves books `b`. -/
structure Comes (I : σ → Prop) (view : σ → String → Option String) (x : Step (Service σ) α)
    (s : Service σ) (a : α) (b : Books) : Prop where
  result : (x s).result = .ok a
  store : I (x s).state.store
  books : books view (x s).state = b

variable {I : σ → Prop} {view : σ → String → Option String} {steady : σ → σ → Prop}
  {settings : Settings} {criteria : Criteria} {subject : Value} {key : String} {e : Evaluation}
  {s : Service σ} {b b' : Books}

namespace Comes

theorem pure {a : α} (inv : I s.store) (kept : Service.books view s = b) :
    Comes I view (Pure.pure a) s a b :=
  ⟨rfl, inv, kept⟩

theorem bind {x : Step (Service σ) α} {f : α → Step (Service σ) β} {a : α} {c : β}
    (first : Comes I view x s a b)
    (rest : ∀ t, I t.store → Service.books view t = b → Comes I view (f a) t c b') :
    Comes I view (x >>= f) s c b' := by
  obtain ⟨came, inv, kept⟩ := first
  have more := rest (x s).state inv kept
  constructor
  · rw [Action.bind_apply, came]
    exact more.result
  · rw [Action.bind_apply, came]
    exact more.store
  · rw [Action.bind_apply, came]
    exact more.books

theorem note {event : Event} (inv : I s.store) (kept : Service.books view s = b) :
    Comes I view (Action.note event) s () b :=
  ⟨rfl, inv, kept⟩

theorem modify {f : Service σ → Service σ} (inv : I (f s).store)
    (kept : Service.books view (f s) = b) : Comes I view (Action.modify f) s () b :=
  ⟨rfl, inv, kept⟩

theorem ofExcept {x : Except Failure α} {a : α} (came : x = .ok a) (inv : I s.store)
    (kept : Service.books view s = b) : Comes I view (Action.ofExcept x) s a b :=
  ⟨came, inv, kept⟩

theorem ending {x : Step (Service σ) α} {a : α} {last : Service σ → Service σ}
    (first : Comes I view x s a b)
    (rest : ∀ t, I t.store → Service.books view t = b →
      I (last t).store ∧ Service.books view (last t) = b') :
    Comes I view (x.ending last) s a b' :=
  ⟨first.result, (rest _ first.store first.books).1, (rest _ first.store first.books).2⟩

/-- A part of an evaluation is carried out within its context. -/
theorem attended {x : Step (Service σ) α} {a : α}
    (part : ∀ t, I t.store → Service.books view t = b → Comes I view x t a b') (inv : I s.store)
    (kept : Service.books view s = b) : Comes I view (Service.attended criteria x) s a b' := by
  have attempt : ∀ t, I t.store → Service.books view t = b →
      Comes I view (x.attempt (φ := Failure)) t (.ok a) b' := fun t inv kept =>
    have inner := part t inv kept
    ⟨congrArg Except.ok inner.result, inner.store, inner.books⟩
  refine ending (bind (modify inv kept) fun t inv kept => ?_) fun t inv kept => ⟨inv, kept⟩
  exact (attempt t inv kept).bind fun u inv kept => pure inv kept

end Comes

/-! ### Parts of an evaluation -/

theorem comes_accept (accepted : settings.validateInput = true →
      (Subject.validate settings subject).result = .ok ()) (inv : I s.store)
    (kept : books view s = b) : Comes I view (accept settings subject) s () b := by
  have passed := accept_apply accepted s
  exact ⟨passed.1, passed.2.symm ▸ inv, passed.2.symm ▸ kept⟩

section Parts

variable [Store σ] (lasting : Store.Lasting settings.lifetime I view steady)

include lasting

theorem comes_put (inv : I s.store) (kept : books view s = b) (key value : String)
    (tags : List String) :
    Comes I view (inStore (Store.put key value settings.lifetime tags)) s ()
      { b with held := Function.update b.held key (Evaluation.ofStored? value) } := by
  subst kept
  obtain ⟨done, inv', same⟩ := lasting.put s.store key value tags inv
  refine ⟨done, inv', congrArg (Books.mk · s.locks s.hits s.metrics.durationCount) ?_⟩
  funext k
  change (view (Store.put key value settings.lifetime tags s.store).state k).bind _ = _
  rw [same, Function.update_apply, Function.update_apply]
  split <;> rfl

theorem comes_delete (inv : I s.store) (kept : books view s = b) (none : b.held key = none) :
    ∃ there, Comes I view (inStore (Store.delete key)) s there b := by
  subst kept
  obtain ⟨⟨there, done⟩, inv', same⟩ := lasting.delete s.store key inv
  refine ⟨there, done, inv', congrArg (Books.mk · s.locks s.hits s.metrics.durationCount) ?_⟩
  funext k
  change (view (Store.delete key s.store).state k).bind _ = _
  rw [same, Function.update_apply]
  split
  · next eq => exact eq ▸ none.symm
  · rfl

/-- What is found under a key is the result that can be read back. -/
theorem comes_fetch (inv : I s.store) (kept : books view s = b) (key : String) :
    Comes I view (fetch key) s (b.held key) b := by
  subst kept
  obtain ⟨found, inv', same⟩ := lasting.get s.store key inv
  have got : Comes I view (inStore (Store.get key)) s (view s.store key) (books view s) :=
    ⟨found, inv', by simp only [books, ← same]; rfl⟩
  have held : (books view s).held key = (view s.store key).bind Evaluation.ofStored? := rfl
  refine got.bind fun t inv kept => ?_
  cases there : view s.store key with
  | none =>
    rw [held, there]
    exact .pure inv kept
  | some stored =>
    rw [there, Option.bind_some] at held
    rw [held]
    dsimp only
    cases read : Evaluation.ofStored? stored with
    | some e => exact .pure inv kept
    | none =>
      rw [read] at held
      refine Comes.bind (.note inv kept) fun u inv kept => ?_
      obtain ⟨_, gone⟩ := comes_delete lasting inv kept held
      exact gone.bind fun _ inv kept => .pure inv kept

/-- A look-up that finds its key is counted. -/
theorem comes_lookup_found (inv : I s.store) (kept : books view s = b)
    (found : b.held key = some e) (countMisses : Bool) :
    Comes I view (lookup key countMisses) s (some e) { b with hits := b.hits + 1 } := by
  have fetched := comes_fetch lasting inv kept key
  rw [found] at fetched
  refine fetched.bind fun t inv kept => ?_
  exact Comes.bind (.modify inv (by subst kept; rfl)) fun u inv kept => .pure inv kept

theorem comes_lookup_missed (inv : I s.store) (kept : books view s = b)
    (missed : b.held key = none) (countMisses : Bool) :
    Comes I view (lookup key countMisses) s none b := by
  have fetched := comes_fetch lasting inv kept key
  rw [missed] at fetched
  refine fetched.bind fun t inv kept => ?_
  cases countMisses with
  | false => exact .pure inv kept
  | true => exact Comes.bind (.modify inv (by subst kept; rfl)) fun u inv kept => .pure inv kept

/-- The first part of an evaluation whose key is found. -/
theorem comes_embark_found (accepted : settings.validateInput = true →
      (Subject.validate settings subject).result = .ok ())
    (known : keyOf settings criteria subject = .ok key) (inv : I s.store)
    (kept : books view s = b) (found : b.held key = some e) :
    Comes I view (embark settings criteria subject true) s (.done e)
      { b with hits := b.hits + 1 } := by
  refine (comes_accept accepted inv kept).bind fun t inv kept => ?_
  refine Comes.bind (.ofExcept known inv kept) fun t inv kept => ?_
  refine (comes_lookup_found lasting inv kept found true).bind fun t inv kept => ?_
  exact Comes.bind (.note inv kept) fun t inv kept => .pure inv kept

/-- The first part of an evaluation whose key is not found. -/
theorem comes_embark_missed (accepted : settings.validateInput = true →
      (Subject.validate settings subject).result = .ok ())
    (known : keyOf settings criteria subject = .ok key) (inv : I s.store)
    (kept : books view s = b) (missed : b.held key = none) :
    Comes I view (embark settings criteria subject true) s (.pending key)
      { b with locks := if b.locks.contains key then b.locks else key :: b.locks } := by
  refine (comes_accept accepted inv kept).bind fun t inv kept => ?_
  refine Comes.bind (.ofExcept known inv kept) fun t inv kept => ?_
  refine (comes_lookup_missed lasting inv kept missed true).bind fun t inv kept => ?_
  exact Comes.bind (.modify inv (by subst kept; rfl)) fun t inv kept => .pure inv kept

end Parts

/-- The result of a key is computed and stored. -/
def produce [Store σ] (settings : Settings) (criteria : Criteria) (subject : Value) (key : String) :
    Step (Service σ) Evaluation := do
  let result ← compute settings criteria subject
  keep settings criteria key result
  Action.note (.completed false)
  return result

/-- What is settled is looked up again first. -/
theorem settle_eq [Store σ] (settings : Settings) (criteria : Criteria) (subject : Value)
    (key : String) :
    settle (σ := σ) settings criteria subject key = (do
      match ← lookup key false with
      | some result => do
        Action.note (.completed true)
        return result
      | none => produce settings criteria subject key) := rfl

theorem comes_compute (direct : Direct settings criteria subject e) (inv : I s.store)
    (kept : books view s = b) :
    Comes I view (compute settings criteria subject) s e { b with runs := b.runs + 1 } := by
  have evaluated : Comes I view (Step.ofTrial (criteria.evaluate settings subject)) s e b :=
    ⟨direct, inv, kept⟩
  have measured : Comes I view ((Step.ofTrial (criteria.evaluate settings subject)).ending
      fun s => { s with metrics := s.metrics.observe .zero }) s e { b with runs := b.runs + 1 } :=
    evaluated.ending fun t inv kept => ⟨inv, by subst kept; rfl⟩
  refine measured.bind fun t inv kept => ?_
  exact Comes.bind (.modify inv kept) fun t inv kept => .pure inv kept

theorem comes_produce [Store σ] (lasting : Store.Lasting settings.lifetime I view steady)
    {text : String} (direct : Direct settings criteria subject e) (stored : e.stored = .ok text)
    (inv : I s.store) (kept : books view s = b) (key : String) :
    Comes I view (produce settings criteria subject key) s e
      { b with
        held := Function.update b.held key (Evaluation.ofStored? text)
        runs := b.runs + 1 } := by
  refine (comes_compute direct inv kept).bind fun t inv kept => ?_
  have putting : Comes I view (keep settings criteria key e) t ()
      { b with
        held := Function.update b.held key (Evaluation.ofStored? text)
        runs := b.runs + 1 } :=
    Comes.bind (.ofExcept stored inv kept) fun u inv kept => comes_put lasting inv kept key text _
  refine putting.bind fun t inv kept => ?_
  exact Comes.bind (.note inv kept) fun t inv kept => .pure inv kept

/-- A subject is accepted and has a key; unless its key is found, the engine returns a result that
can be read back. -/
structure Ready (settings : Settings) (criteria : Criteria) (held : String → Option Evaluation)
    (subject : Value) : Prop where
  accepted : settings.validateInput = true → (Subject.validate settings subject).result = .ok ()
  key : ∃ key, keyOf settings criteria subject = .ok key
  readable : ∀ key, keyOf settings criteria subject = .ok key → held key = none →
    ∃ e text, Direct settings criteria subject e ∧ e.stored = .ok text ∧
      (Evaluation.ofStored? text).isSome

/-- A check that a subject is ready, whatever is held. -/
def isReady (settings : Settings) (criteria : Criteria) (subject : Value) : Bool :=
  (Subject.validate settings subject).result.toOption.isSome &&
    (keyOf settings criteria subject).toOption.isSome &&
    (criteria.evaluate settings subject).result.toOption.any (·.readsBack)

theorem ready_of_isReady (checked : isReady settings criteria subject = true)
    (held : String → Option Evaluation) : Ready settings criteria held subject := by
  unfold isReady at checked
  simp only [Bool.and_eq_true, Option.isSome_iff_exists, Option.any_eq_true] at checked
  obtain ⟨⟨⟨_, accepted⟩, key, known⟩, e, direct, readsBack⟩ := checked
  refine ⟨fun _ => ok_of_toOption accepted, ⟨key, ok_of_toOption known⟩, fun _ _ _ => ?_⟩
  have readable := readsBack
  rw [Evaluation.readsBack, Bool.and_eq_true, Option.any_eq_true] at readable
  obtain ⟨-, tree, written, -⟩ := readable
  have stored : e.stored = .ok tree.plainText := by
    unfold Evaluation.stored
    rw [written]
  refine ⟨e, _, ok_of_toOption direct, stored, ?_⟩
  rw [Evaluation.ofStored?_stored e stored, if_pos readsBack]
  rfl

end Service

/-! ### A store in memory that lasts -/

namespace Memory

variable {m : Memory} {key value : String} {lifetime : Int}

theorem live?_remove (m : Memory) (key : String) :
    (m.remove key).live? = Function.update m.live? key none := by
  funext k
  rw [Function.update_apply, live?, get?_remove, now_remove]
  by_cases same : k = key
  · rw [if_pos same, if_pos same]
  · rw [if_neg same, if_neg same]
    rfl

theorem live?_put (m : Memory) (key : String) (entry : Entry)
    (standing : entry.isOver m.now = false) :
    (m.put key entry).live? = Function.update m.live? key (some entry.value) := by
  funext k
  have now : (m.put key entry).now = m.now := now_remove m key
  rw [Function.update_apply, live?, get?_put, now]
  by_cases same : k = key
  · rw [if_pos same, if_pos same]
    simp [standing]
  · rw [if_neg same, if_neg same]
    rfl

/-- What is put for a lifetime is not over at once. -/
def Keeping (lifetime : Int) (m : Memory) : Prop :=
  ∃ expires, m.expiry lifetime = .ok expires ∧ expires.le m.now = false

theorem Keeping.of_now {m' : Memory} (keeping : m.Keeping lifetime) (same : m'.now = m.now) :
    m'.Keeping lifetime := by
  unfold Keeping expiry at keeping ⊢
  rwa [same]

/-- Whether what is put for a lifetime is not over at once. -/
def isKeeping (lifetime : Int) (m : Memory) : Bool :=
  (m.expiry lifetime).toOption.any fun expires => !expires.le m.now

theorem keeping_of_isKeeping (checked : m.isKeeping lifetime = true) : m.Keeping lifetime := by
  obtain ⟨expires, came, later⟩ := (Option.any_eq_true ..).1 checked
  exact ⟨expires, ok_of_toOption came, by simpa using later⟩

/-- Time passes, and the entry under a key does not end. -/
theorem live?_advance {seconds : Double}
    (standing : (m.entries.get? key).all fun entry =>
      !entry.isOver m.now && !entry.isOver (m.advance seconds).now) :
    (m.advance seconds).live? key = m.live? key := by
  have entries : (m.advance seconds).entries = m.entries := rfl
  rw [live?, live?, entries]
  cases there : m.entries.get? key with
  | none => rfl
  | some entry =>
    rw [there, Option.all_some, Bool.and_eq_true, Bool.not_eq_true', Bool.not_eq_true'] at standing
    dsimp only
    rw [standing.1, standing.2]

/-- Time passes and nothing that the store holds ends. -/
def Steady (lifetime : Int) (m m' : Memory) : Prop :=
  ∃ seconds, m' = m.advance seconds ∧ m'.Keeping lifetime ∧ m'.live? = m.live?

/-- **A store in memory lasts** while nothing in it is over. -/
theorem lasting (lifetime : Int) :
    Store.Lasting lifetime (Keeping lifetime) live? (Steady lifetime) where
  get m key keeping := by
    change Except.ok (m.get key).1 = _ ∧ Keeping lifetime (m.get key).2 ∧ (m.get key).2.live? = _
    unfold get
    cases there : m.live? key with
    | some value => exact ⟨rfl, keeping, rfl⟩
    | none =>
      refine ⟨rfl, keeping.of_now (now_remove m key), ?_⟩
      rw [live?_remove]
      exact Function.update_eq_self_iff.2 there.symm
  put m key value tags keeping := by
    obtain ⟨expires, ends, later⟩ := keeping
    change (putFor key value lifetime tags m).result = _ ∧
      Keeping lifetime (putFor key value lifetime tags m).state ∧
      (putFor key value lifetime tags m).state.live? = _
    unfold putFor
    rw [ends]
    exact ⟨rfl, Keeping.of_now ⟨expires, ends, later⟩ (now_remove m key), live?_put m key _ later⟩
  delete m key keeping :=
    ⟨⟨_, rfl⟩, keeping.of_now (now_remove m key), live?_remove m key⟩
  steady m m' _ := by
    rintro ⟨seconds, rfl, keeping, same⟩
    exact ⟨keeping, same⟩

end Memory

/-! ### A store behind a client that lasts -/

namespace Shared

open Client

variable {s : Shared} {key value : String} {lifetime : Int}

/-- There is a client, and it never fails. -/
def Unfailing (s : Shared) : Prop := ∃ c, s.client = some c ∧ Faultless c

/-- Time passes, and no value ends. -/
def Steady (s s' : Shared) : Prop := s'.Unfailing ∧ s'.held = s.held

theorem held_of_client {c : Client} (there : s.client = some c) :
    s.held = fun key => c.values.get? (s.keyOf key) := by
  funext key
  rw [held, there]
  rfl

theorem keyOf_inj {other : String} : s.keyOf other = s.keyOf key ↔ other = key :=
  ⟨fun same => valueKey_inj (show valueKey s.space other = valueKey s.space key from same),
    congrArg s.keyOf⟩

/-- **A store behind a client that never fails lasts** while no value ends. -/
theorem lasting (lifetime : Int) : Store.Lasting lifetime Unfailing held Steady where
  get s key unfailing := by
    obtain ⟨c, there, faultless⟩ := unfailing
    obtain ⟨d, still, kept, result, state⟩ := get_obeyed there faultless key
    rw [result, state, held_of_client there, held_of_client rfl, still.values]
    exact ⟨rfl, ⟨d, rfl, kept⟩, rfl⟩
  put s key value tags unfailing := by
    obtain ⟨c, there, faultless⟩ := unfailing
    obtain ⟨b, d, values, -, tagged, kept, result, state⟩ :=
      put_obeyed there faultless key value lifetime tags
    refine ⟨result, state ▸ ⟨d, rfl, kept⟩, ?_⟩
    rw [state, held_of_client there, held_of_client rfl]
    funext other
    change d.values.get? (s.keyOf other) = _
    rw [tagged.values, values, Keyed.get?_insert, Function.update_apply]
    simp only [keyOf_inj]
  delete s key unfailing := by
    obtain ⟨c, there, faultless⟩ := unfailing
    obtain ⟨d, gone, kept, result, state⟩ := delete_obeyed there faultless key
    refine ⟨⟨_, result⟩, state ▸ ⟨d, rfl, kept⟩, ?_⟩
    rw [state, held_of_client there, held_of_client rfl]
    funext other
    change d.values.get? (s.keyOf other) = _
    rw [gone.values, Function.update_apply]
    simp only [List.mem_singleton, keyOf_inj]
  steady _ _ _ later := later

end Shared
end Eligibility
