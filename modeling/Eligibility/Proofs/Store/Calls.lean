/-
# Histories of a store in memory

A store in memory that starts empty is what its calls have made of it (`Memory.replay`).  Each call
is made at a time of its own, so a history says how time has passed as well.

Next to the store runs a plain map, which forgets nothing by itself (`Memory.table`): a put sets
its key, and what ends an entry removes it.  The store holds what the map holds, except that an
entry that was over at the time of some call may be gone (`Memory.represents_replay`).  The map in
turn holds the puts that stand (`Memory.table_eq_some`).
-/

import Eligibility.Proofs.Store.Memory
import Mathlib.Data.List.Induction

namespace Eligibility
namespace Memory

/-- A call of a store. -/
inductive Call where
  | get (key : String)
  | holds (key : String)
  | put (key value : String) (lifetime : Int) (tags : List String)
  | delete (key : String)
  | dropTag (tag : String)
  | flush
  | stats

/-- Calls with the times at which they are made. -/
abbrev History := List (Double × Call)

/-- A put that has been made. -/
structure Put where
  time : Double
  value : String
  lifetime : Int
  tags : List String

namespace Put

/-- The call that a put is, with its time. -/
def call (put : Put) (key : String) : Double × Call :=
  (put.time, .put key put.value put.lifetime put.tags)

/-- The time from which on a put is over. A lifetime without a double leads to none. -/
def expires? (put : Put) : Option Double :=
  match Double.ofInt? put.lifetime with
  | .ok seconds => some (put.time + seconds)
  | .error _ => none

/-- The entry that a put leaves. -/
def left? (put : Put) : Option Entry :=
  put.expires?.map fun expires => { value := put.value, expires, tags := put.tags }

/-- Whether a put is not over at a time. -/
def isLive (put : Put) (now : Double) : Bool := put.expires?.any fun expires => now.lt expires

end Put

namespace Call

/-- What a call makes of a store. -/
def effect : Call → Memory → Memory
  | get key, m => (Store.get key m).state
  | holds key, m => (Store.holds key m).state
  | put key value lifetime tags, m => (Store.put key value lifetime tags m).state
  | delete key, m => (Store.delete key m).state
  | dropTag tag, m => (Store.dropTag tag m).state
  | flush, m => (Store.flush m).state
  | stats, m => (Store.stats m).state

/-- Whether a call only looks. -/
def isRead : Call → Bool
  | get _ | holds _ | stats => true
  | _ => false

/-- Whether a call puts something under a key. -/
def puts (key : String) : Call → Bool
  | put k _ _ _ => k == key
  | _ => false

/-- Whether a call ends an entry under a key with these tags. -/
def ends (key : String) (tags : List String) : Call → Bool
  | put k _ _ _ => k == key
  | delete k => k == key
  | dropTag tag => tags.contains tag
  | flush => true
  | _ => false

/-- What a call at a time makes of the entry under a key. -/
def updated (now : Double) (key : String) (old? : Option Entry) : Call → Option Entry
  | put k value lifetime tags =>
    if key = k then (Put.mk now value lifetime tags).left? else old?
  | delete k => if key = k then none else old?
  | dropTag tag => old?.filter fun entry => !entry.tags.contains tag
  | flush => none
  | _ => old?

end Call

/-- The store at another time. -/
def clockAt (m : Memory) (now : Double) : Memory := { m with now }

/-- What a history makes of an empty store. -/
def replay (history : History) : Memory :=
  history.foldl (fun m call => call.2.effect (m.clockAt call.1)) {}

/-- What a history makes of an empty map. -/
def table (history : History) (key : String) : Option Entry :=
  history.foldl (fun old? call => call.2.updated call.1 key old?) none

variable {m : Memory} {history : History} {key : String} {call : Call} {entry : Entry} {put : Put}

theorem replay_concat (history : History) (now : Double) (call : Call) :
    replay (history ++ [(now, call)]) = call.effect ((replay history).clockAt now) := by
  rw [replay, List.foldl_append]
  rfl

theorem table_concat (history : History) (now : Double) (call : Call) (key : String) :
    table (history ++ [(now, call)]) key = call.updated now key (table history key) := by
  rw [table, List.foldl_append]
  rfl

/-! ### One call -/

theorem effect_put (m : Memory) (key value : String) (lifetime : Int) (tags : List String) :
    (Call.put key value lifetime tags).effect m =
      match (Put.mk m.now value lifetime tags).left? with
      | some entry => m.put key entry
      | none => m.remove key := by
  change (putFor key value lifetime tags m).state = _
  unfold putFor expiry Put.left? Put.expires?
  dsimp only
  cases Double.ofInt? lifetime with
  | ok seconds => rfl
  | error fault => rfl

theorem effect_dropTag (m : Memory) (tag : String) :
    (Call.dropTag tag).effect m = (m.dropTag tag).2 := rfl

/-- **The index is kept by every call.** -/
theorem Indexed.effect (indexed : m.Indexed) (call : Call) : (call.effect m).Indexed := by
  cases call with
  | get key => exact indexed.get key
  | holds key => exact indexed.get key
  | put key value lifetime tags =>
    rw [effect_put]
    split
    · exact indexed.put key _
    · exact IndexedOn.remove indexed key
  | delete key => exact IndexedOn.remove indexed key
  | dropTag tag => exact indexed.dropTag tag
  | flush => exact indexed_empty rfl rfl
  | stats => exact indexed

/-- A look-up leaves the entries as they are, or removes one that is over. -/
theorem get?_get (m : Memory) (looked key : String) :
    (m.get looked).2.entries.get? key = m.entries.get? key ∨
      (m.get looked).2.entries.get? key = none ∧
        ∃ entry, m.entries.get? key = some entry ∧ entry.isOver m.now := by
  unfold get
  cases live : m.live? looked with
  | some value => exact .inl rfl
  | none =>
    dsimp only
    rw [get?_remove]
    by_cases same : key = looked
    · subst same
      rw [if_pos rfl]
      unfold live? at live
      cases there : m.entries.get? key with
      | none => exact .inl rfl
      | some entry =>
        rw [there] at live
        refine .inr ⟨rfl, entry, rfl, ?_⟩
        by_contra standing
        simp [standing] at live
    · rw [if_neg same]
      exact .inl rfl

/-- **What a call makes of the entry under a key**: what it makes of the entry in the map, except
that a look-up may remove an entry that is over. -/
theorem get?_effect (indexed : m.Indexed) (call : Call) (key : String) :
    (call.effect m).entries.get? key = call.updated m.now key (m.entries.get? key) ∨
      call.isRead ∧ (call.effect m).entries.get? key = none ∧
        ∃ entry, m.entries.get? key = some entry ∧ entry.isOver m.now := by
  cases call with
  | get looked => exact (m.get?_get looked key).imp id fun removed => ⟨rfl, removed⟩
  | holds looked => exact (m.get?_get looked key).imp id fun removed => ⟨rfl, removed⟩
  | stats => exact .inl rfl
  | put k value lifetime tags =>
    left
    rw [effect_put]
    simp only [Call.updated]
    cases (Put.mk m.now value lifetime tags).left? with
    | some entry => exact get?_put m k entry key
    | none => exact get?_remove m k key
  | delete k => exact .inl (get?_remove m k key)
  | dropTag tag =>
    left
    simp only [effect_dropTag, get?_dropTag indexed, Call.updated]
  | flush => exact .inl rfl

/-- In the map an entry is the one that was put, or it stood before and has not ended. -/
theorem Call.updated_eq_some {now : Double} {old? : Option Entry} :
    call.updated now key old? = some entry ↔
      (∃ put : Put, (now, call) = put.call key ∧ put.left? = some entry) ∨
        old? = some entry ∧ call.ends key entry.tags = false := by
  cases call with
  | put k value lifetime tags =>
    simp only [updated, ends, Put.call, Prod.mk.injEq, Call.put.injEq]
    by_cases same : key = k
    · subst same
      rw [if_pos rfl]
      constructor
      · intro found
        exact .inl ⟨⟨now, value, lifetime, tags⟩, ⟨rfl, rfl, rfl, rfl, rfl⟩, found⟩
      · rintro (⟨put, ⟨rfl, -, rfl, rfl, rfl⟩, found⟩ | ⟨-, no⟩)
        · exact found
        · simp at no
    · have other : k ≠ key := fun eq => same eq.symm
      simp [same, other]
  | delete k =>
    by_cases same : key = k
    · simp [updated, ends, Put.call, same]
    · have other : k ≠ key := fun eq => same eq.symm
      simp [updated, ends, Put.call, same, other]
  | dropTag tag =>
    simp only [updated, ends, Put.call, Option.filter_eq_some_iff]
    simp
  | flush => simp [updated, ends, Put.call]
  | get | holds | stats => simp [updated, ends, Put.call]

/-- In the map an entry that is missing stays missing, or is replaced as if it were there. -/
theorem Call.updated_none (call : Call) (now : Double) (key : String) (entry : Entry) :
    call.updated now key none = call.updated now key (some entry) ∨
      call.updated now key none = none ∧ call.updated now key (some entry) = some entry := by
  cases call with
  | put k | delete k =>
    simp only [updated]
    split
    · exact .inl rfl
    · exact .inr ⟨rfl, rfl⟩
  | dropTag tag =>
    simp only [updated, Option.filter_none, Option.filter_some]
    split
    · exact .inr ⟨trivial, rfl⟩
    · exact .inl rfl
  | flush => exact .inl rfl
  | get | holds | stats => exact .inr ⟨rfl, rfl⟩

/-! ### Histories -/

theorem indexed_replay (history : History) : (replay history).Indexed := by
  induction history using List.reverseRecOn with
  | nil => exact indexed_empty rfl rfl
  | append_singleton history call ih =>
    rw [replay_concat]
    exact Indexed.effect (m := (replay history).clockAt call.1) ih call.2

/-- A put of a key, followed by calls of one kind only. -/
def PutThen (quiet : Call → Prop) (history : History) (key : String) (put : Put) : Prop :=
  ∃ before after, history = before ++ put.call key :: after ∧ ∀ later ∈ after, quiet later.2

theorem putThen_concat {quiet : Call → Prop} {last : Double × Call} :
    PutThen quiet (history ++ [last]) key put ↔
      last = put.call key ∨ PutThen quiet history key put ∧ quiet last.2 := by
  constructor
  · rintro ⟨before, after, split, rest⟩
    rcases List.eq_nil_or_concat after with rfl | ⟨between, final, rfl⟩
    · exact .inl (List.append_inj_right' split rfl |> List.singleton_inj.1)
    · rw [List.concat_eq_append, ← List.cons_append, ← List.append_assoc] at split
      obtain ⟨rfl, same⟩ := List.append_inj' split rfl
      obtain rfl := List.singleton_inj.1 same
      refine .inr ⟨⟨before, between, rfl, fun later member => rest later ?_⟩, rest last ?_⟩
      · simp [member]
      · simp
  · rintro (rfl | ⟨⟨before, after, rfl, rest⟩, calm⟩)
    · exact ⟨history, [], rfl, by simp⟩
    · refine ⟨before, after ++ [last], by simp, fun later member => ?_⟩
      rcases List.mem_append.1 member with member | member
      · exact rest later member
      · rwa [List.mem_singleton.1 member]

/-- The last put of a key. -/
def Latest (history : History) (key : String) (put : Put) : Prop :=
  PutThen (fun call => call.puts key = false) history key put

/-- A put that nothing has ended. -/
def Stands (history : History) (key : String) (put : Put) : Prop :=
  PutThen (fun call => call.ends key put.tags = false) history key put

theorem Stands.latest (stands : Stands history key put) : Latest history key put := by
  obtain ⟨before, after, split, rest⟩ := stands
  refine ⟨before, after, split, fun later member => ?_⟩
  have calm := rest later member
  cases called : later.2 <;> simp_all [Call.ends, Call.puts]

theorem puts_call (put : Put) (key : String) : (put.call key).2.puts key = true := by
  simp [Put.call, Call.puts]

theorem Put.call_inj {put put' : Put} (same : put.call key = put'.call key) : put = put' := by
  obtain ⟨time, value, lifetime, tags⟩ := put
  obtain ⟨time', value', lifetime', tags'⟩ := put'
  simp only [Put.call, Prod.mk.injEq, Call.put.injEq] at same
  obtain ⟨rfl, -, rfl, rfl, rfl⟩ := same
  rfl

/-- A key has one last put. -/
theorem Latest.unique {put' : Put} (latest : Latest history key put)
    (latest' : Latest history key put') : put = put' := by
  induction history using List.reverseRecOn with
  | nil =>
    obtain ⟨before, after, split, -⟩ := latest
    simp at split
  | append_singleton history last ih =>
    rcases putThen_concat.1 latest with rfl | ⟨before, calm⟩
    · rcases putThen_concat.1 latest' with same | ⟨-, calm⟩
      · exact Put.call_inj same
      · rw [puts_call] at calm
        cases calm
    · rcases putThen_concat.1 latest' with rfl | ⟨before', -⟩
      · rw [puts_call] at calm
        cases calm
      · exact ih before before'

theorem Put.parts_of_left? (left : put.left? = some entry) :
    entry.value = put.value ∧ entry.tags = put.tags ∧ put.expires? = some entry.expires := by
  obtain ⟨expires, found, rfl⟩ := Option.map_eq_some_iff.1 left
  exact ⟨rfl, rfl, found⟩

/-- **The map holds the puts that stand.** -/
theorem table_eq_some :
    table history key = some entry ↔ ∃ put, Stands history key put ∧ put.left? = some entry := by
  induction history using List.reverseRecOn with
  | nil =>
    constructor
    · nofun
    · rintro ⟨put, ⟨before, after, split, -⟩, -⟩
      simp at split
  | append_singleton history last ih =>
    rw [table_concat, Call.updated_eq_some, ih]
    constructor
    · rintro (⟨put, same, left⟩ | ⟨⟨put, stands, left⟩, calm⟩)
      · exact ⟨put, putThen_concat.2 (.inl same), left⟩
      · rw [(Put.parts_of_left? left).2.1] at calm
        exact ⟨put, putThen_concat.2 (.inr ⟨stands, calm⟩), left⟩
    · rintro ⟨put, stands, left⟩
      rcases putThen_concat.1 stands with same | ⟨stands, calm⟩
      · exact .inl ⟨put, same, left⟩
      · rw [← (Put.parts_of_left? left).2.1] at calm
        exact .inr ⟨⟨put, stands, left⟩, calm⟩

/-- A store holds what a map holds, but for entries that were over at a time in the past. -/
def Represents (m : Memory) (past : List Double) (map : String → Option Entry) : Prop :=
  ∀ key, m.entries.get? key = map key ∨
    m.entries.get? key = none ∧
      ∃ entry time, map key = some entry ∧ time ∈ past ∧ entry.isOver time

/-- **A store represents its map**, whatever calls have been made at whatever times. -/
theorem represents_replay (history : History) :
    (replay history).Represents (history.map (·.1)) (table history) := by
  induction history using List.reverseRecOn with
  | nil => exact fun key => .inl rfl
  | append_singleton history last ih =>
    obtain ⟨now, call⟩ := last
    intro key
    rw [replay_concat, table_concat, List.map_append]
    have indexed : ((replay history).clockAt now).Indexed := indexed_replay history
    have before : ((replay history).clockAt now).entries = (replay history).entries := rfl
    have step := get?_effect indexed call key
    rw [before] at step
    rcases ih key with same | ⟨none, entry, time, there, past, ended⟩
    · rw [same] at step
      rcases step with step | ⟨read, gone, entry, there, ended⟩
      · exact .inl step
      · have kept : call.updated now key (table history key) = table history key := by
          cases call <;> first | rfl | cases read
        exact .inr ⟨gone, entry, now, kept.trans there, by simp, ended⟩
    · rw [none] at step
      rcases step with step | ⟨-, -, entry, there, -⟩
      · rw [there]
        rcases call.updated_none now key entry with as | ⟨missing, kept⟩
        · exact .inl (step.trans as)
        · exact .inr ⟨step.trans missing, entry, time, kept, by simp [past], ended⟩
      · cases there

/-- A stored entry is what a put that stands has left. -/
theorem stands_of_entry (there : (replay history).entries.get? key = some entry) :
    ∃ put, Stands history key put ∧ put.left? = some entry := by
  rcases represents_replay history key with same | ⟨none, -⟩
  · exact table_eq_some.1 (same.symm.trans there)
  · rw [none] at there
    cases there

end Memory
end Eligibility
