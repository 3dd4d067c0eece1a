/-
# Two stores that agree

A store in memory takes a key from its tags when the key goes.  A store behind a client does not:
a member of a tag stays when it is deleted, and when it goes with another of its tags.  It is put
in order again by the next put of the key, and until then it stands for nothing.  So as long as a
key is always put with the same tags, the two stores answer alike (`Memory.answers_eq`).

| | in memory | behind a client |
| --- | --- | --- |
| a key | its entry | the entry's text, under the key of the space |
| a tag | the keys whose entries carry it | these, and others that have no value |
| dropping a tag | removes and counts its keys | removes its members, counts those that there are |

The client may hand out pages of any size, and only the count of an emptying may differ: sets of
members are counted as well.
-/

import Eligibility.Proofs.Store.Obeyed
import Eligibility.Proofs.Store.Tagged
import Eligibility.Proofs.Store.Timestamped

namespace Eligibility

namespace Memory

/-! ### Answers -/

/-- What a call answers. -/
inductive Answer where
  | found (text? : Option String)
  | told (b : Bool)
  | counted (n : Nat)
  deriving DecidableEq

namespace Call

variable {σ : Type} [Store σ]

/-- What a store answers to a call. A put, an emptying and a description have nothing to compare. -/
def answer? : Call → σ → Option (Except Failure Answer)
  | get key, s => some (.found <$> (Store.get key s).result)
  | holds key, s => some (.told <$> (Store.holds key s).result)
  | delete key, s => some (.told <$> (Store.delete key s).result)
  | dropTag tag, s => some (.counted <$> (Store.dropTag tag s).result)
  | _, _ => none

/-- The store after a call. -/
def after : Call → σ → σ
  | get key, s => (Store.get key s).state
  | holds key, s => (Store.holds key s).state
  | put key value lifetime tags, s => (Store.put key value lifetime tags s).state
  | delete key, s => (Store.delete key s).state
  | dropTag tag, s => (Store.dropTag tag s).state
  | flush, s => (Store.flush s).state
  | stats, s => (Store.stats s).state

theorem after_eq_effect (call : Call) (m : Memory) : call.after m = call.effect m := by
  cases call <;> rfl

/-- The key that a call is about. -/
def key? : Call → Option String
  | get key | holds key | put key _ _ _ | delete key => some key
  | _ => none

end Call

/-- The answers to the calls of a history. `clock` tells a store the time. -/
def answers {σ : Type} [Store σ] (clock : Double → σ → σ) :
    σ → History → List (Except Failure Answer)
  | _, [] => []
  | s, (now, call) :: rest =>
    (call.answer? (clock now s)).toList ++ answers clock (call.after (clock now s)) rest

/-- What is asked of a history for two stores to agree on it. -/
structure Suited (history : History) : Prop where
  /-- A key is always put with the same tags. -/
  tags : ∀ key (put put' : Put), put.call key ∈ history → put'.call key ∈ history →
    ∀ tag, tag ∈ put.tags ↔ tag ∈ put'.tags
  /-- No key looks like that of a tag. -/
  apart : ∀ call ∈ history, ∀ key ∈ call.2.key?, Shared.Apart key
  /-- No put is over at the time of a later call. -/
  lasting : history.Pairwise fun earlier later =>
    ∀ key (put : Put), earlier = put.call key → put.isLive later.1

variable {m : Memory}

/-- No entry is over. -/
def Fresh (m : Memory) : Prop :=
  ∀ key entry, m.entries.get? key = some entry → entry.isOver m.now = false

theorem Fresh.get_fst (fresh : m.Fresh) (key : String) :
    (m.get key).1 = (m.entries.get? key).map (·.value) := by
  rw [Memory.get_fst]
  cases there : m.entries.get? key with
  | none => rfl
  | some entry => simp [fresh key entry there]

theorem Fresh.get?_get (fresh : m.Fresh) (looked key : String) :
    (m.get looked).2.entries.get? key = m.entries.get? key := by
  rcases Memory.get?_get m looked key with same | ⟨-, entry, there, gone⟩
  · exact same
  · rw [fresh key entry there] at gone
    cases gone

/-- A key is put under a tag at some time. -/
def Puts (history : History) (key tag : String) : Prop :=
  ∃ put : Put, put.call key ∈ history ∧ tag ∈ put.tags

end Memory

namespace Shared

open Client
open Memory (History Call Put Answer Suited Puts answers replay)

/-- A client holds what a store in memory holds: the texts under the keys of the space, and under
each tag the keys that carry it.  A tag may have members for which there is nothing.  `N` tells
which tags a key is put with. -/
structure Mirrors (space : String) (N : String → String → Prop) (m : Memory) (c : Client) :
    Prop where
  values : ∀ key, Apart key →
    c.values.get? (valueKey space key) = (m.entries.get? key).map (·.value)
  sets : ∀ k, c.sets.get? k ≠ none → ∃ tag, k = tagKey space tag
  members : ∀ tag, ∀ k ∈ c.setAt (tagKey space tag),
    ∃ key, k = valueKey space key ∧ Apart key ∧ N key tag
  entries : ∀ key entry, m.entries.get? key = some entry → Apart key ∧
    ∀ tag, (tag ∈ entry.tags ↔ N key tag) ∧
      (N key tag → valueKey space key ∈ c.setAt (tagKey space tag))

variable {s : Shared} {space key tag : String} {N : String → String → Prop} {m m' : Memory}
  {c d : Client}

theorem apart_iff : Apart key ↔ ¬"tag:".toList <+: key.toList := by
  constructor
  · rintro apart ⟨rest, same⟩
    exact apart (String.ofList rest) (String.toList_inj.1 (by simp [← same]))
  · rintro other tag rfl
    exact other (prefix_append "tag:" tag)

instance : Decidable (Apart key) := decidable_of_iff _ apart_iff.symm

theorem Mirrors.has (mirrors : Mirrors space N m c) (apart : Apart key) :
    c.has (valueKey space key) = m.entries.contains key := by
  have noSet : c.sets.get? (valueKey space key) = none := by
    by_contra set
    obtain ⟨tag, same⟩ := mirrors.sets _ set
    exact valueKey_ne_tagKey apart tag same
  unfold Client.has Keyed.contains
  rw [noSet, mirrors.values key apart]
  simp

/-- Keys may be removed from both, as long as no set is removed with a member that stays. -/
theorem Mirrors.without {keys : List String} (mirrors : Mirrors space N m c)
    (gone : Without keys c d)
    (same : ∀ key, m'.entries.get? key =
      if valueKey space key ∈ keys then none else m.entries.get? key)
    (cover : ∀ key tag, m'.entries.contains key → N key tag → tagKey space tag ∉ keys) :
    Mirrors space N m' d := by
  refine ⟨fun key apart => ?_, fun k there => ?_, fun tag k member => ?_,
    fun key entry there => ?_⟩
  · rw [gone.values, same, mirrors.values key apart]
    split <;> rfl
  · rw [gone.sets] at there
    split at there
    · exact absurd rfl there
    · exact mirrors.sets k there
  · rw [gone.setAt] at member
    split at member
    · cases member
    · exact mirrors.members tag k member
  · have stays : m'.entries.contains key := by rw [Keyed.contains, there]; rfl
    rw [same] at there
    split at there
    · cases there
    · obtain ⟨apart, carried⟩ := mirrors.entries key entry there
      refine ⟨apart, fun tag => ⟨(carried tag).1, fun named => ?_⟩⟩
      rw [gone.setAt, if_neg (cover key tag stays named)]
      exact (carried tag).2 named

/-- Nothing has happened to either. -/
theorem Mirrors.still (mirrors : Mirrors space N m c) (still : Still c d)
    (same : ∀ key, m'.entries.get? key = m.entries.get? key) : Mirrors space N m' d :=
  mirrors.without still.without (by simpa using same) (by simp)

/-- A key is put into both. -/
theorem Mirrors.put {b : Client} {entry : Entry}
    (mirrors : Mirrors space N m c) (apart : Apart key)
    (named : ∀ tag, tag ∈ entry.tags ↔ N key tag)
    (values : b.values = c.values.insert (valueKey space key) entry.value)
    (sets : b.sets = c.sets)
    (tagged : Tagged (entry.tags.map (tagKey space)) (valueKey space key) b d) :
    Mirrors space N (m.put key entry) d := by
  have before (other : String) : b.setAt other = c.setAt other := by
    unfold setAt
    rw [sets]
  refine ⟨fun other apart' => ?_, fun k there => ?_, fun tag k member => ?_,
    fun other found there => ?_⟩
  · rw [tagged.values, values, Keyed.get?_insert, Memory.get?_put, mirrors.values other apart']
    by_cases same : other = key
    · simp [same]
    · rw [if_neg same, if_neg fun eq => same (valueKey_inj eq)]
  · rw [Ne, tagged.sets, sets] at there
    by_cases under : k ∈ entry.tags.map (tagKey space)
    · obtain ⟨tag, -, eq⟩ := List.mem_map.1 under
      exact ⟨tag, eq.symm⟩
    · exact mirrors.sets k fun absent => there ⟨absent, under⟩
  · rcases (tagged.members k _).1 member with old | ⟨rfl, under⟩
    · rw [before] at old
      exact mirrors.members tag k old
    · obtain ⟨tag', there, eq⟩ := List.mem_map.1 under
      obtain rfl : tag' = tag := tagKey_inj eq
      exact ⟨key, rfl, apart, (named tag').1 there⟩
  · rw [Memory.get?_put] at there
    split at there
    · next same =>
      subst same
      obtain rfl := Option.some.inj there
      refine ⟨apart, fun tag => ⟨named tag, fun carries => (tagged.members _ _).2 (.inr ⟨rfl, ?_⟩)⟩⟩
      exact List.mem_map_of_mem ((named tag).2 carries)
    · obtain ⟨apart', carried⟩ := mirrors.entries other found there
      refine ⟨apart', fun tag => ⟨(carried tag).1, fun carries => (tagged.members _ _).2 (.inl ?_)⟩⟩
      rw [before]
      exact (carried tag).2 carries

/-! ### One call -/

/-- A store behind a client that never fails holds what a store in memory holds. -/
def Alike (space : String) (N : String → String → Prop) (m : Memory) : Shared → Prop :=
  Kept space fun c => Mirrors space N m c ∧ Faultless c

theorem alike_get (alike : Alike space N m s) (fresh : m.Fresh) (apart : Apart key) :
    (Store.get key s).result = .ok (m.get key).1 ∧
      Alike space N (m.get key).2 (Store.get key s).state := by
  obtain ⟨rfl, c, there, mirrors, faultless⟩ := alike
  obtain ⟨d, still, kept, result, state⟩ := get_obeyed there faultless key
  have same : c.values.get? (s.keyOf key) = (m.get key).1 := by
    rw [fresh.get_fst]
    exact mirrors.values key apart
  rw [result, state, same]
  exact ⟨rfl, rfl, _, rfl, mirrors.still still (fresh.get?_get key), kept⟩

theorem alike_holds (alike : Alike space N m s) (fresh : m.Fresh) (apart : Apart key) :
    (Store.holds key s).result = .ok (m.get key).1.isSome ∧
      Alike space N (m.get key).2 (Store.holds key s).state := by
  obtain ⟨rfl, c, there, mirrors, faultless⟩ := alike
  have succeeds : Succeeds (Client.holds (s.keyOf key)) :=
    ((foretold_give _).bind fun _ => foretold_ofPair fun _ => ⟨rfl, rfl⟩).succeeds
  obtain ⟨kept, found, came, result, state⟩ := operation_obeyed
    (x := fun s => Client.holds (s.keyOf key)) "exists" there faultless succeeds
  obtain ⟨still, read⟩ := holds_cases (s.keyOf key) c
  have same : found = (m.get key).1.isSome := by
    rw [read found came, fresh.get_fst, Option.isSome_map]
    exact mirrors.has apart
  change (operation "exists" _ s).result = _ ∧ Alike _ N _ (operation "exists" _ s).state
  rw [result, state, same]
  exact ⟨rfl, rfl, _, rfl, mirrors.still still (fresh.get?_get key), kept⟩

theorem alike_put (alike : Alike space N m s) (apart : Apart key) {entry : Entry}
    (named : ∀ tag, tag ∈ entry.tags ↔ N key tag) (lifetime : Int) :
    Alike space N (m.put key entry) (Store.put key entry.value lifetime entry.tags s).state := by
  obtain ⟨rfl, c, there, mirrors, faultless⟩ := alike
  obtain ⟨b, d, values, sets, tagged, kept, -, state⟩ :=
    put_obeyed there faultless key entry.value lifetime entry.tags
  rw [state]
  exact ⟨rfl, _, rfl, mirrors.put apart named values sets tagged, kept⟩

theorem alike_delete (alike : Alike space N m s) (apart : Apart key) :
    (Store.delete key s).result = .ok (m.delete key).1 ∧
      Alike space N (m.delete key).2 (Store.delete key s).state := by
  obtain ⟨rfl, c, there, mirrors, faultless⟩ := alike
  obtain ⟨d, gone, kept, result, state⟩ := delete_obeyed there faultless key
  have counted : c.has (s.keyOf key) = (m.delete key).1 := mirrors.has apart
  rw [result, state, counted]
  refine ⟨rfl, rfl, _, rfl, mirrors.without gone (fun other => ?_) ?_, kept⟩
  · have lone : valueKey s.space other ∈ [s.keyOf key] ↔ other = key :=
      List.mem_singleton.trans ⟨valueKey_inj, congrArg (valueKey s.space)⟩
    change (m.remove key).entries.get? other = _
    simp only [Memory.get?_remove, lone]
  · intro other tag _ _ lost
    exact valueKey_ne_tagKey apart tag (List.mem_singleton.1 lost).symm

/-- A key that has an entry is a member of the tags that the entry carries. -/
theorem Mirrors.mem_setAt (mirrors : Mirrors space N m c) {entry : Entry}
    (there : m.entries.get? key = some entry) (tag : String) :
    valueKey space key ∈ c.setAt (tagKey space tag) ↔ tag ∈ entry.tags := by
  obtain ⟨-, carried⟩ := mirrors.entries key entry there
  constructor
  · intro member
    obtain ⟨other, same, -, named⟩ := mirrors.members tag _ member
    obtain rfl := valueKey_inj same
    exact (carried tag).1.2 named
  · exact fun carries => (carried tag).2 ((carried tag).1.1 carries)

/-- **The members that there are, are the keys that carry the tag.** -/
theorem Mirrors.present_eq (mirrors : Mirrors space N m c) (indexed : m.Indexed) (tag : String) :
    c.present (c.membersOf (tagKey space tag)) =
      (TagIndex.keysOf m.index tag).toFinset.image (valueKey space) := by
  ext k
  simp only [present, Finset.mem_filter, List.mem_toFinset, mem_membersOf, Finset.mem_image]
  constructor
  · rintro ⟨member, has⟩
    obtain ⟨key, rfl, apart, -⟩ := mirrors.members tag k member
    rw [mirrors.has apart] at has
    obtain ⟨entry, there⟩ := Option.isSome_iff_exists.1 has
    have carries := (mirrors.mem_setAt there tag).1 member
    exact ⟨key, (indexed key tag True.intro).2 ⟨entry, there, carries⟩, rfl⟩
  · rintro ⟨key, listed, rfl⟩
    obtain ⟨entry, there, carries⟩ := (indexed key tag True.intro).1 listed
    refine ⟨(mirrors.mem_setAt there tag).2 carries, ?_⟩
    rw [mirrors.has (mirrors.entries key entry there).1, Keyed.contains, there]
    rfl

theorem alike_dropTag (alike : Alike space N m s) (indexed : m.Indexed) (tidy : m.index.Tidy)
    (tag : String) :
    (Store.dropTag tag s).result = .ok (m.dropTag tag).1 ∧
      Alike space N (m.dropTag tag).2 (Store.dropTag tag s).state := by
  obtain ⟨rfl, c, there, mirrors, faultless⟩ := alike
  obtain ⟨kept, count, came, result, state⟩ := operation_obeyed
    (x := dropMembers tag) "invalidate_tag" there faultless (foretold_dropMembers tag s).succeeds
  obtain ⟨counted, gone⟩ := dropMembers_of_ok came
  have stored : ∀ key ∈ TagIndex.keysOf m.index tag, m.entries.contains key := by
    intro key listed
    obtain ⟨entry, there, -⟩ := (indexed key tag True.intro).1 listed
    rw [Keyed.contains, there]
    rfl
  have same : count = (m.dropTag tag).1 := by
    have many : (m.dropTag tag).1 = (TagIndex.keysOf m.index tag).length :=
      Memory.deleteAll_fst (tidy.nodup tag) stored
    change count = (c.present (c.membersOf (tagKey s.space tag))).card at counted
    rw [counted, many, mirrors.present_eq indexed,
      Finset.card_image_of_injective _ fun _ _ => valueKey_inj,
      List.toFinset_card_of_nodup (tidy.nodup tag)]
  have done : (Store.dropTag tag s).result = .ok count ∧ (Store.dropTag tag s).state =
      { s with client := some (dropMembers tag s c).state } := by
    change (Shared.dropTag tag s).result = _ ∧ (Shared.dropTag tag s).state = _
    unfold Shared.dropTag
    rw [Action.bind_apply, result, state]
    exact ⟨rfl, rfl⟩
  rw [done.1, done.2, same]
  refine ⟨rfl, rfl, _, rfl, mirrors.without gone (fun key => ?_) ?_, kept⟩
  · rw [Memory.get?_dropTag indexed]
    cases there : m.entries.get? key with
    | none => simp
    | some entry =>
      have apart := (mirrors.entries key entry there).1
      have removed : valueKey s.space key ∈ c.membersOf (s.tagKeyOf tag) ++ [s.tagKeyOf tag] ↔
          tag ∈ entry.tags := by
        rw [List.mem_append, mem_membersOf, List.mem_singleton, ← mirrors.mem_setAt there tag]
        exact or_iff_left (valueKey_ne_tagKey apart tag)
      by_cases carries : tag ∈ entry.tags <;> simp [Option.filter, removed, carries]
  · intro key other stays named lost
    obtain ⟨entry, left⟩ := Option.isSome_iff_exists.1 stays
    rw [Memory.get?_dropTag indexed, Option.filter_eq_some_iff] at left
    rcases List.mem_append.1 lost with member | own
    · obtain ⟨key', same, apart, -⟩ := mirrors.members tag _ (mem_membersOf.1 member)
      exact valueKey_ne_tagKey apart other same.symm
    · obtain rfl : other = tag := tagKey_inj (List.mem_singleton.1 own)
      have carries := ((mirrors.entries key entry left.1).2 other).1.2 named
      simp [carries] at left

theorem alike_flush (alike : Alike space N m s) :
    Alike space N m.flush.2 (Store.flush s).state := by
  obtain ⟨rfl, c, there, mirrors, faultless⟩ := alike
  obtain ⟨kept, count, came, result, state⟩ := operation_obeyed
    (x := sweepAll) "flush_namespace" there faultless (foretold_sweepAll s).succeeds
  have done : (Store.flush s).state = { s with client := some (sweepAll s c).state } := by
    change (Shared.flush s).state = _
    unfold Shared.flush
    rw [Action.bind_apply, result, state]
    rfl
  obtain ⟨keys, -, gone, -⟩ := sweepAll_cases s c
  rw [done]
  refine ⟨rfl, _, rfl, mirrors.without gone (fun key => ?_) ?_, kept⟩
  · -- What has an entry has a value, which is gone, so its key was removed.
    change none = _
    cases there : m.entries.get? key with
    | none => simp
    | some entry =>
      have starts : (s.keyOf "").toList <+: (valueKey s.space key).toList := by
        simp [keyOf, valueKey]
      have ended := (sweepAll_gone ⟨count, came⟩ starts).1
      rw [gone.values, mirrors.values key (mirrors.entries key entry there).1, there] at ended
      split at ended
      · next removed => rw [if_pos removed]
      · cases ended
  · intro key tag stays
    cases stays

theorem alike_stats (alike : Alike space N m s) : Alike space N m (Store.stats s).state := by
  obtain ⟨rfl, c, there, mirrors, faultless⟩ := alike
  obtain ⟨kept, _, -, result, state⟩ := operation_obeyed
    (x := fun _ => Client.usage) "stats" there faultless
    ((foretold_give _).bind fun _ => foretold_pure _).succeeds
  have done : (Store.stats s).state = { s with client := some (Client.usage c).state } := by
    change (Shared.stats s).state = _
    unfold Shared.stats
    rw [Action.bind_apply, result, state]
    rfl
  have still : Still c (Client.usage c).state := by
    obtain ⟨d, still, -, ⟨fault, refused⟩ | obeyed⟩ := give_cases .usage (pure "1.00M") c
    · rw [Client.usage, refused]
      exact still
    · rw [Client.usage, obeyed]
      exact still
  rw [done]
  exact ⟨rfl, _, rfl, mirrors.still still fun _ => rfl, kept⟩

/-- **One call.**  Stores that hold the same give the same answer, and hold the same afterwards. -/
theorem alike_call (alike : Alike space N m s) (indexed : m.Indexed) (tidy : m.index.Tidy)
    (fresh : m.Fresh) {call : Call} (apart : ∀ key ∈ call.key?, Apart key)
    (named : ∀ key (put : Put), (m.now, call) = put.call key → ∀ tag, tag ∈ put.tags ↔ N key tag) :
    (∃ told : Option Answer, call.answer? m = told.map .ok ∧ call.answer? s = told.map .ok) ∧
      ((∀ key (put : Put), (m.now, call) = put.call key → put.expires? ≠ none) →
        Alike space N (call.after m) (call.after s)) := by
  cases call with
  | get key =>
    obtain ⟨result, after⟩ := alike_get alike fresh (apart key rfl)
    exact ⟨⟨some (.found (m.get key).1), rfl, by rw [Call.answer?, result]; rfl⟩, fun _ => after⟩
  | holds key =>
    obtain ⟨result, after⟩ := alike_holds alike fresh (apart key rfl)
    exact ⟨⟨some (.told (m.get key).1.isSome), rfl, by rw [Call.answer?, result]; rfl⟩,
      fun _ => after⟩
  | put key value lifetime tags =>
    refine ⟨⟨none, rfl, rfl⟩, fun ends => ?_⟩
    let put : Put := ⟨m.now, value, lifetime, tags⟩
    obtain ⟨expires, found⟩ := Option.ne_none_iff_exists'.1 (ends key put rfl)
    have left : put.left? = some ⟨value, expires, tags⟩ := by rw [Put.left?, found]; rfl
    have made : (Call.put key value lifetime tags).after m = m.put key ⟨value, expires, tags⟩ := by
      rw [Call.after_eq_effect, Memory.effect_put, left]
    rw [made]
    exact alike_put alike (apart key rfl) (named key put rfl) lifetime
  | delete key =>
    obtain ⟨result, after⟩ := alike_delete alike (apart key rfl)
    exact ⟨⟨some (.told (m.delete key).1), rfl, by rw [Call.answer?, result]; rfl⟩, fun _ => after⟩
  | dropTag tag =>
    obtain ⟨result, after⟩ := alike_dropTag alike indexed tidy tag
    exact ⟨⟨some (.counted (m.dropTag tag).1), rfl, by rw [Call.answer?, result]; rfl⟩,
      fun _ => after⟩
  | flush => exact ⟨⟨none, rfl, rfl⟩, fun _ => alike_flush alike⟩
  | stats => exact ⟨⟨none, rfl, rfl⟩, fun _ => alike_stats alike⟩

/-! ### Histories -/

/-- Nothing is over when the next call of a history is made. -/
theorem fresh_replay {before rest : History} {now : Double} {call : Call}
    (suited : Suited (before ++ (now, call) :: rest)) : ((replay before).clockAt now).Fresh := by
  intro key entry there
  obtain ⟨put, ⟨first, between, rfl, -⟩, left⟩ := Memory.stands_of_entry there
  have live : put.isLive now :=
    (List.pairwise_append.1 suited.lasting).2.2 (put.call key) (by simp) (now, call) (by simp)
      key put rfl
  rw [Memory.isLive_eq left] at live
  cases gone : entry.isOver now with
  | false => exact gone
  | true =>
    obtain ⟨expires, number⟩ := Double.ne_nan_of_le gone
    have standing := Double.le_eq_not_lt number expires
    rw [live] at standing
    cases gone.symm.trans standing

/-- **A whole history.**  Stores that hold the same give the same answers to what follows. -/
theorem answers_from {history before rest : History} (split : history = before ++ rest)
    (suited : Suited history) (alike : Alike space (Puts history) (replay before) s) :
    ∃ told : List Answer, answers (fun now m => m.clockAt now) (replay before) rest = told.map .ok ∧
      answers (fun _ s => s) s rest = told.map .ok := by
  induction rest generalizing before s with
  | nil => exact ⟨[], rfl, rfl⟩
  | cons first rest ih =>
    obtain ⟨now, call⟩ := first
    have here : (now, call) ∈ history := by simp [split]
    have fresh := fresh_replay (split ▸ suited)
    have named : ∀ key (put : Put), (now, call) = put.call key →
        ∀ tag, tag ∈ put.tags ↔ Puts history key tag := by
      intro key put same tag
      have made : put.call key ∈ history := same ▸ here
      refine ⟨fun carries => ⟨put, made, carries⟩, ?_⟩
      rintro ⟨other, made', carries⟩
      exact (suited.tags key put other made made' tag).2 carries
    have indexed : ((replay before).clockAt now).Indexed := Memory.indexed_replay before
    have alike' : Alike space (Puts history) ((replay before).clockAt now) s := by
      obtain ⟨same, c, there, mirrors, faultless⟩ := alike
      exact ⟨same, c, there, mirrors.still ⟨rfl, rfl, rfl, rfl⟩ fun _ => rfl, faultless⟩
    obtain ⟨⟨told?, answer, answer'⟩, after⟩ := alike_call alike' indexed
      (Memory.tidy_replay before) fresh (suited.apart _ here) named
    have made : replay (before ++ [(now, call)]) = call.after ((replay before).clockAt now) := by
      rw [Memory.replay_concat, Call.after_eq_effect]
    have more : ∃ told : List Answer,
        answers (fun now m => m.clockAt now) (call.after ((replay before).clockAt now)) rest =
          told.map .ok ∧ answers (fun _ s => s) (call.after s) rest = told.map .ok := by
      cases rest with
      | nil => exact ⟨[], rfl, rfl⟩
      | cons second rest =>
        rw [← made]
        refine ih (by simp [split]) ?_
        rw [made]
        -- A put is not over at the time of the second call, so its time has an end.
        refine after fun key put same none => ?_
        have lasting := suited.lasting
        rw [split] at lasting
        have live := (List.pairwise_cons.1 (List.pairwise_append.1 lasting).2.1).1 second (by simp)
          key put same
        rw [Put.isLive, none] at live
        cases live
    obtain ⟨told, later, later'⟩ := more
    refine ⟨told?.toList ++ told, ?_, ?_⟩
    · rw [answers, answer, later, List.map_append]
      cases told? <;> rfl
    · rw [answers, answer', later', List.map_append]
      cases told? <;> rfl

end Shared

namespace Memory

variable {history : History} {c : Client}

/-- **A store in memory and a store behind a client answer alike.**  When a key is always put with
the same tags, no key looks like that of a tag, nothing is over at the time of a later call and the
client never fails, look-ups, deletions and dropped tags are answered by both, and in the same
way, whatever the pages of the client. -/
theorem answers_eq (space : String) (suited : Suited history) (faultless : c.Faultless)
    (noValue : c.values = .empty) (noSet : c.sets = .empty) :
    ∃ told : List Answer,
      answers (fun now m => m.clockAt now) ({} : Memory) history = told.map .ok ∧
      answers (fun _ s => s) ({ space, client := some c } : Shared) history = told.map .ok := by
  have mirrors : Shared.Mirrors space (Puts history) {} c := by
    refine ⟨fun key _ => ?_, fun k there => ?_, fun tag k member => ?_, fun key entry there => ?_⟩
    · rw [noValue]
      rfl
    · rw [noSet] at there
      exact absurd rfl there
    · rw [Client.setAt, noSet] at member
      cases member
    · cases there
  have alike : Shared.Alike space (Puts history) (replay []) { space, client := some c } :=
    ⟨rfl, c, rfl, mirrors, faultless⟩
  have start : replay [] = {} := rfl
  have told := Shared.answers_from (List.nil_append history).symm suited alike
  rwa [start] at told

/-- A call puts a key for a minute, and under the same tags as ever, when it puts one. -/
def isSteady : Call → Bool
  | .put key _ lifetime tags => lifetime == 60 && tags == if key = "a" then ["t", "u"] else ["t"]
  | _ => true

/-- Keys that go with one of their tags, or are deleted, and come back. -/
def comings : History :=
  [.put "a" "1" 60 ["t", "u"], .put "b" "2" 60 ["t"], .dropTag "u", .get "a", .dropTag "t",
    .put "a" "3" 60 ["t", "u"], .holds "a", .delete "a", .delete "a", .dropTag "t", .dropTag "u",
    .put "b" "4" 60 ["t"], .put "a" "5" 60 ["t", "u"], .flush, .get "b", .put "a" "6" 60 ["t", "u"],
    .get "a", .dropTag "t"].map fun call => (.ofNat 1000, call)

/-- The requirements can be met, with pages of one key and members that have no value. -/
theorem answers_eq_comings :
    Suited comings ∧
      answers (fun _ s => s) ({ space := "e", client := some { page := 1 } } : Shared) comings =
        [.counted 1, .found none, .counted 1, .told true, .told true, .told false, .counted 0,
          .counted 0, .found none, .found (some "6"), .counted 1].map .ok := by
  have steady : ∀ call ∈ comings, isSteady call.2 := by decide
  have times : ∀ call ∈ comings, call.1 = .ofNat 1000 := by
    intro call member
    obtain ⟨_, -, rfl⟩ := List.mem_map.1 member
    dsimp only
  have minute : (Put.mk (.ofNat 1000) "" 60 []).isLive (.ofNat 1000) := by decide +kernel
  have suited : Suited comings := by
    refine ⟨fun key put put' made made' tag => ?_, ?_, ?_⟩
    · have same := steady _ made
      have same' := steady _ made'
      simp only [Put.call, isSteady, Bool.and_eq_true, beq_iff_eq] at same same'
      rw [same.2, same'.2]
    · have apart : ∀ call ∈ comings, call.2.key?.all fun key => decide (Shared.Apart key) := by
        decide
      intro call member key about
      exact of_decide_eq_true ((Option.all_eq_true _ _).1 (apart call member) key about)
    · refine List.pairwise_of_forall_mem_list ?_
      rintro _ made later called key put rfl
      have ends : put.expires? = (Put.mk (.ofNat 1000) "" 60 []).expires? := by
        have time : put.time = .ofNat 1000 := times _ made
        have lifetime := steady _ made
        simp only [Put.call, isSteady, Bool.and_eq_true, beq_iff_eq] at lifetime
        unfold Put.expires?
        simp only [time, lifetime.1]
      rw [Put.isLive, ends, times later called]
      exact minute
  obtain ⟨told, ours, theirs⟩ :=
    answers_eq (c := { page := 1 }) "e" suited (fun _ _ none => by cases none) rfl rfl
  refine ⟨suited, theirs.trans ?_⟩
  have computed : (answers (fun now m => m.clockAt now) ({} : Memory) comings).filterMap
      Except.toOption = [.counted 1, .found none, .counted 1, .told true, .told true, .told false,
        .counted 0, .counted 0, .found none, .found (some "6"), .counted 1] := by decide +kernel
  rw [ours, List.filterMap_map] at computed
  rw [← computed]
  simp [Function.comp_def, Except.toOption]

end Memory
end Eligibility
