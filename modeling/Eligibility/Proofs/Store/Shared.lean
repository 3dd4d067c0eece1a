/-
# A store behind a client in its surroundings

The operations of the store keep its client in order (`Shared.keeps`), whatever the client fails
to do, or with no excuse at all when it never fails; the two are told apart by what is asked of
the client and what excuses a value (`Manner`).

Three things happen to the client from outside.  A key ends when its time is over; a set ends
before its members do only when a put of theirs was broken off before it renewed the time of the
set.  And the client is told how to fail.
-/

import Eligibility.Proofs.Service.Run
import Eligibility.Proofs.Store.Filed

namespace Eligibility
namespace Shared

open Client

/-- What is asked of a client all along, and what excuses a value without a tag then. -/
structure Manner (calm : Client → Prop) (excused : String → List Command → Prop) : Prop where
  lasting : Lasting excused
  kept : ∀ {α : Type} {x : Exchange α}, Succeeds x → ∀ c, calm c → calm (x c).state
  excuses : ∀ {α : Type} {x : Exchange α}, Succeeds x → ∀ c k, calm c →
    (∃ fault, (x c).result = .error fault) → TornAt k (x c).state.commands →
    excused k (x c).state.commands

/-- Any client: a put that was broken off is an excuse. -/
theorem manner_any : Manner (fun _ => True) TornAt where
  lasting _ _ _ _ torn leads longer := torn.extend leads longer
  kept _ _ _ := True.intro
  excuses _ _ _ _ _ torn := torn

/-- A store over a space that has a client in `J`. -/
structure Kept (space : String) (J : Client → Prop) (s : Shared) : Prop where
  space : s.space = space
  client : ∃ c, s.client = some c ∧ J c

variable {α : Type} {space : String} {J : Client → Prop} {Q : α → Prop} {s : Shared}

theorem keeps_operation {name : String} {x : Shared → Exchange α}
    (h : ∀ s c, s.space = space → J c → J (x s c).state ∧ ∀ a, (x s c).result = .ok a → Q a) :
    Action.Keeps (Kept space J) (operation name x) Q := by
  have exchanged : Action.Keeps (Kept space J) (onClient x) fun result =>
      ∀ a, result = .ok a → Q a := by
    intro s kept
    obtain ⟨c, there, inJ⟩ := kept.client
    obtain ⟨after, found⟩ := h s c kept.space inJ
    unfold onClient
    rw [there]
    refine ⟨⟨kept.space, _, rfl, after⟩, fun result eq => ?_⟩
    obtain rfl := Except.ok.inj eq
    exact found
  refine exchanged.bind fun result found => ?_
  cases result with
  | ok a => exact .pure (found a rfl)
  | error fault =>
    dsimp only
    unfold raise
    split
    · exact Action.Keeps.note.andThen fun _ => .fail
    · exact .fail

/-- The failure of an operation at a fault. -/
def failureOf (name : String) (fault : ClientFault) : Failure :=
  if fault.own then .storeFailed fault.message (some name)
  else .clientFailed fault.kind fault.message

/-- What an operation comes to behind a client. -/
theorem operation_comes {c : Client} (name : String) (x : Shared → Exchange α)
    (there : s.client = some c) :
    (operation name x s).result = (x s c).result.mapError (failureOf name) ∧
      (operation name x s).state = { s with client := some (x s c).state } := by
  unfold operation
  rw [Action.bind_apply]
  unfold onClient
  rw [there]
  cases done : (x s c).result with
  | ok a =>
    simp only [done]
    exact ⟨rfl, rfl⟩
  | error fault =>
    simp only [done, Except.mapError, failureOf]
    unfold raise
    split <;> exact ⟨rfl, rfl⟩

/-- An operation that returns was carried out by a client. -/
theorem operation_eq_ok {name : String} {x : Shared → Exchange α} {a : α}
    (came : (operation name x s).result = .ok a) :
    ∃ c, s.client = some c ∧ (x s c).result = .ok a ∧
      (operation name x s).state = { s with client := some (x s c).state } := by
  cases there : s.client with
  | none =>
    obtain ⟨_, exchanged, -⟩ := Action.ok_of_bind came
    rw [onClient, there] at exchanged
    cases exchanged
  | some c =>
    obtain ⟨result, state⟩ := operation_comes name x there
    rw [result] at came
    cases done : (x s c).result with
    | ok b =>
      rw [done] at came
      obtain rfl := Except.ok.inj came
      exact ⟨c, rfl, done, state⟩
    | error fault =>
      rw [done] at came
      cases came

theorem operation_of_ok {x : Shared → Exchange α} {c : Client} {a : α} (name : String)
    (there : s.client = some c) (came : (x s c).result = .ok a) :
    (operation name x s).result = .ok a := by
  rw [(operation_comes name x there).1, came]
  rfl

/-! ### Operations -/

section Operations

variable {W : String → String → List String → Prop} {N : String → String → Prop}
  {calm : Client → Prop} {excused : String → List Command → Prop} {κ : String → Prop}

/-- The client is in order, and as is asked of it. -/
def InOrder (space : String) (W : String → String → List String → Prop)
    (N : String → String → Prop) (calm : Client → Prop) (excused : String → List Command → Prop) :
    Shared → Prop :=
  Kept space fun c => Filed space W N excused c ∧ calm c

variable (manner : Manner calm excused) (apart : ∀ key tag, N key tag → Apart key)

include manner

theorem keeps_value (key : String) : Action.Keeps (InOrder space W N calm excused)
    (Store.get (σ := Shared) key) fun found => ∀ value ∈ found, ∃ tags, W key value tags := by
  refine Action.Keeps.bind (Q := fun found => ∀ value ∈ found, ∃ tags, W key value tags)
    (keeps_operation fun s c same filed => ?_) fun found kept => ?_
  · subst same
    refine ⟨⟨filed_value manner.lasting filed.1 _, manner.kept ?_ c filed.2⟩, ?_⟩
    · exact ((foretold_give _).bind fun _ => foretold_ofPair fun _ => ⟨rfl, rfl⟩).succeeds
    · intro found came value member
      have there := (value_cases (s.keyOf key) c).2 found came
      obtain ⟨key', tags, same, w, -⟩ := filed.1.values _ value (there ▸ member)
      obtain rfl := valueKey_inj same
      exact ⟨tags, w⟩
  · split
    · exact Action.Keeps.note.andThen fun _ => .pure kept
    · exact .pure kept

theorem keeps_put (named : ∀ key v tags, W key v tags → ∀ tag ∈ tags, N key tag)
    {key value : String} {tags : List String} (w : W key value tags) (lifetime : Int) :
    Action.Keeps (InOrder space W N calm excused)
      (Store.put (σ := Shared) key value lifetime tags) fun _ => True := by
  have kept : Action.Keeps (InOrder space W N calm excused)
      (operation "put" fun s => putting s key value lifetime tags) fun _ => True := by
    refine keeps_operation fun s c same filed => ⟨⟨?_, ?_⟩, fun _ _ => True.intro⟩
    · refine filed_putting manner.lasting named filed.1 s same w fun broken torn => ?_
      exact manner.excuses (foretold_putting s key value lifetime tags).succeeds c _ filed.2 broken torn
    · exact manner.kept (foretold_putting s key value lifetime tags).succeeds c filed.2
  exact kept.andThen fun _ => .note

theorem keeps_remove {key : String} (plain : Apart key) :
    Action.Keeps (InOrder space W N calm excused) (Store.delete (σ := Shared) key)
      fun _ => True := by
  have kept : Action.Keeps (InOrder space W N calm excused)
      (operation "delete" fun s => Client.remove [s.keyOf key]) fun _ => True := by
    refine keeps_operation fun s c same filed => ⟨⟨?_, ?_⟩, fun _ _ => True.intro⟩
    · subst same
      exact filed_remove manner.lasting filed.1 plain
    · exact manner.kept (foretold_remove _).succeeds c filed.2
  exact kept.andThen fun _ => .pure True.intro

theorem keeps_holds {key : String} (plain : Apart key) :
    Action.Keeps (InOrder space W N calm excused) (Store.holds (σ := Shared) key) fun found =>
      found = true → ∃ value tags, W key value tags := by
  refine keeps_operation fun s c same filed => ?_
  subst same
  refine ⟨⟨filed_holds manner.lasting filed.1 _, manner.kept ?_ c filed.2⟩, ?_⟩
  · exact ((foretold_give _).bind fun _ => foretold_ofPair fun _ => ⟨rfl, rfl⟩).succeeds
  rintro found came rfl
  have there := (holds_cases (s.keyOf key) c).2 true came
  have noSet : c.sets.get? (s.keyOf key) = none := by
    by_contra set
    obtain ⟨tag, same⟩ := filed.1.sets _ set
    exact valueKey_ne_tagKey plain tag same
  cases value : c.values.get? (s.keyOf key) with
  | none => simp [has, Keyed.contains, value, noSet] at there
  | some v =>
    obtain ⟨key', tags, same, w, -⟩ := filed.1.values _ v value
    obtain rfl := valueKey_inj same
    exact ⟨v, tags, w⟩

include apart

theorem keeps_dropTag (tag : String) : Action.Keeps (InOrder space W N calm excused)
    (Store.dropTag (σ := Shared) tag) fun _ => True := by
  have kept : Action.Keeps (InOrder space W N calm excused)
      (operation "invalidate_tag" (dropMembers tag)) fun _ => True := by
    refine keeps_operation fun s c same filed => ⟨⟨?_, ?_⟩, fun _ _ => True.intro⟩
    · exact filed_dropMembers manner.lasting apart filed.1 s same tag
    · exact manner.kept (foretold_dropMembers tag s).succeeds c filed.2
  exact kept.andThen fun _ => Action.Keeps.note.andThen fun _ => .pure True.intro

/-- **The operations keep a store in order.** -/
theorem keeps (named : ∀ key v tags, W key v tags → ∀ tag ∈ tags, N key tag)
    (plain : ∀ key, κ key → Apart key) :
    Store.Keeps (InOrder space W N calm excused) κ (fun key value => ∃ tags, W key value tags)
      W where
  get key _ := keeps_value manner key
  put _ _ lifetime _ w := keeps_put manner named w lifetime
  delete key known := keeps_remove manner (plain key known)
  holds key known := keeps_holds manner (plain key known)
  dropTag tag := keeps_dropTag manner apart tag
  flush _ _ no := by cases no

end Operations

/-! ### Surroundings -/

/-- What happens to a client from outside. -/
inductive Happening where
  /-- The time of a key is over; that of a set is not while a member of it has a value. -/
  | ends (key : String)
  /-- The time of a set is over, and a put broke off before it renewed it for a member that has a
  value. -/
  | endsEarly (key : String)
  /-- What is to happen at the next commands of a word. -/
  | fails (word : String) (faults : List (Option ClientFault))

namespace Happening

/-- What becomes of a client. -/
def befall : Happening → Client → Client
  | ends key, c => if ∀ k ∈ c.setAt key, ¬c.values.contains k then c.drop key else c
  | endsEarly key, c =>
    if ∀ k ∈ c.setAt key, c.values.contains k → TornAt k c.commands then c.drop key else c
  | fails word faults, c => { c with faults := c.faults.insert word faults }

end Happening

section Surroundings

variable {W : String → String → List String → Prop} {N : String → String → Prop} {c : Client}

theorem filed_befall (h : Filed space W N TornAt c) (event : Happening) :
    Filed space W N TornAt (event.befall c) := by
  cases event with
  | ends key =>
    rw [Happening.befall]
    split
    · next spent => exact filed_drop h key fun k member there => absurd there (spent k member)
    · exact h
  | endsEarly key =>
    rw [Happening.befall]
    split
    · next spent => exact filed_drop h key spent
    · exact h
  | fails word faults => exact ⟨h.values, h.members, h.sets⟩

end Surroundings

/-- What happens to the client of a store. -/
instance : Service.Surroundings Shared Happening :=
  ⟨fun event s => { s with client := s.client.map event.befall }⟩

theorem Kept.occur {event : Happening} (kept : Kept space J s)
    (h : ∀ c, J c → J (event.befall c)) :
    Kept space J (Service.Surroundings.occur event s) := by
  obtain ⟨c, there, inJ⟩ := kept.client
  exact ⟨kept.space, event.befall c, congrArg (Option.map event.befall) there, h c inJ⟩

end Shared
end Eligibility
