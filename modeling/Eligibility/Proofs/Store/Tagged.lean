/-
# The tag index of a store in memory

The index of a store in memory lists each key once under a tag and keeps no tag without keys
(`TagIndex.Tidy`), and every call keeps it so.  With the entries it agrees in both directions
(`Memory.Indexed`).  So after any history a key stands under a tag exactly when it is stored and
its last put carried the tag, and dropping a tag removes and counts just those keys
(`Memory.index_replay`).
-/

import Eligibility.Proofs.Store.Calls

namespace Eligibility

namespace TagIndex

/-- No tag is without keys, and none has a key twice. -/
def Tidy (index : TagIndex) : Prop :=
  ∀ tag keys, index.get? tag = some keys → keys ≠ [] ∧ keys.Nodup

variable {index : TagIndex}

theorem tidy_empty : Tidy (.empty : TagIndex) := nofun

theorem Tidy.nodup (tidy : Tidy index) (tag : String) : (keysOf index tag).Nodup := by
  unfold keysOf
  cases found : index.get? tag with
  | none => exact List.nodup_nil
  | some keys => exact (tidy tag keys found).2

theorem Tidy.erase (tidy : Tidy index) (tag : String) : Tidy (index.erase tag) := by
  intro other keys found
  rw [Keyed.get?_erase] at found
  split at found
  · cases found
  · exact tidy other keys found

theorem Tidy.insert (tidy : Tidy index) (tag : String) {keys : List String} (some : keys ≠ [])
    (nodup : keys.Nodup) : Tidy (index.insert tag keys) := by
  intro other found there
  rw [Keyed.get?_insert] at there
  split at there
  · rw [← Option.some.inj there]
    exact ⟨some, nodup⟩
  · exact tidy other found there

theorem Tidy.add (tidy : Tidy index) (key tag : String) : Tidy (add index key tag) := by
  have nodup := tidy.nodup tag
  refine tidy.insert tag ?_ ?_
  · split
    · next there =>
      intro none
      rw [none] at there
      cases there
    · simp
  · split
    · exact nodup
    · next absent =>
      have new : key ∉ keysOf index tag := by simpa using absent
      rw [List.nodup_append]
      refine ⟨nodup, by simp, fun k member other single same => new ?_⟩
      rwa [← List.mem_singleton.1 single, ← same]

theorem Tidy.remove (tidy : Tidy index) (key tag : String) : Tidy (remove index key tag) := by
  unfold TagIndex.remove
  split
  · exact tidy
  · next keys found =>
    dsimp only
    split
    · exact tidy.erase tag
    · next some =>
      exact tidy.insert tag (by simpa using some) ((tidy tag keys found).2.filter _)

theorem Tidy.addAll (tidy : Tidy index) (key : String) (tags : List String) :
    Tidy (addAll index key tags) := by
  induction tags generalizing index with
  | nil => exact tidy
  | cons tag rest ih => exact ih (tidy.add key tag)

theorem Tidy.removeAll (tidy : Tidy index) (key : String) (tags : List String) :
    Tidy (removeAll index key tags) := by
  induction tags generalizing index with
  | nil => exact tidy
  | cons tag rest ih => exact ih (tidy.remove key tag)

end TagIndex

namespace Memory

open TagIndex (keysOf)

variable {m : Memory} {history : History} {key : String} {entry : Entry}

/-! ### The index stays tidy -/

theorem tidy_remove (tidy : m.index.Tidy) (key : String) : (m.remove key).index.Tidy := by
  unfold remove
  split
  · exact tidy
  · exact tidy.removeAll key _

theorem tidy_put (tidy : m.index.Tidy) (key : String) (entry : Entry) :
    (m.put key entry).index.Tidy :=
  (tidy_remove tidy key).addAll key entry.tags

theorem tidy_deleteAll (tidy : m.index.Tidy) (keys : List String) :
    (m.deleteAll keys).2.index.Tidy := by
  induction keys generalizing m with
  | nil => exact tidy
  | cons key rest ih => exact ih (tidy_remove tidy key)

theorem tidy_get (tidy : m.index.Tidy) (key : String) : (m.get key).2.index.Tidy := by
  rcases m.get_cases key with same | ⟨-, removed⟩
  · rwa [same]
  · rw [removed]
    exact tidy_remove tidy key

theorem tidy_effect (tidy : m.index.Tidy) (call : Call) : (call.effect m).index.Tidy := by
  cases call with
  | get key | holds key => exact tidy_get tidy key
  | put key value lifetime tags =>
    rw [effect_put]
    split
    · exact tidy_put tidy key _
    · exact tidy_remove tidy key
  | delete key => exact tidy_remove tidy key
  | dropTag tag => exact tidy_deleteAll (tidy.erase tag) _
  | flush => exact TagIndex.tidy_empty
  | stats => exact tidy

theorem tidy_replay (history : History) : (replay history).index.Tidy := by
  induction history using List.reverseRecOn with
  | nil => exact TagIndex.tidy_empty
  | append_singleton history call ih =>
    rw [replay_concat]
    exact tidy_effect (m := (replay history).clockAt call.1) ih call.2

/-! ### Dropping a tag -/

/-- As many keys are removed as there are, when all of them are stored and none comes twice. -/
theorem deleteAll_fst {keys : List String} (nodup : keys.Nodup)
    (stored : ∀ key ∈ keys, m.entries.contains key) : (m.deleteAll keys).1 = keys.length := by
  induction keys generalizing m with
  | nil => rfl
  | cons key rest ih =>
    obtain ⟨new, others⟩ := List.nodup_cons.1 nodup
    have later : ∀ k ∈ rest, (m.remove key).entries.contains k := by
      intro k member
      have different : k ≠ key := fun same => new (same ▸ member)
      rw [Keyed.contains, get?_remove, if_neg different]
      exact stored k (List.mem_cons_of_mem _ member)
    have first : m.entries.contains key := stored key List.mem_cons_self
    change (if m.entries.contains key then _ else _) = _
    rw [if_pos first, ih others later, List.length_cons]

/-- The key is stored, and its last put carries the tag. -/
def Carries (history : History) (key tag : String) : Prop :=
  (replay history).entries.contains key ∧ ∃ put, Latest history key put ∧ tag ∈ put.tags

theorem mem_keysOf_replay (tag : String) :
    key ∈ keysOf (replay history).index tag ↔ Carries history key tag := by
  rw [indexed_replay history key tag True.intro]
  constructor
  · rintro ⟨entry, there, carries⟩
    obtain ⟨put, stands, left⟩ := stands_of_entry there
    refine ⟨by rw [Keyed.contains, there]; rfl, put, stands.latest, ?_⟩
    rwa [← (Put.parts_of_left? left).2.1]
  · rintro ⟨stored, put, latest, carries⟩
    obtain ⟨entry, there⟩ := Option.isSome_iff_exists.1 stored
    obtain ⟨put', stands, left⟩ := stands_of_entry there
    obtain rfl := latest.unique stands.latest
    refine ⟨entry, there, ?_⟩
    rwa [(Put.parts_of_left? left).2.1]

/-- **The index says which keys carry a tag.**  After any history a key stands under a tag exactly
when it is stored and its last put carried the tag, and no tag is without keys.  Dropping a tag
removes just the keys that carry it and tells how many they were. -/
theorem index_replay (history : History) (now : Double) :
    let m := (replay history).clockAt now
    (∀ key tag, key ∈ keysOf m.index tag ↔ Carries history key tag) ∧
    (∀ tag, m.index.get? tag ≠ some []) ∧
    ∀ tag, ∃ dropped : List String, dropped.Nodup ∧
      (∀ key, key ∈ dropped ↔ Carries history key tag) ∧
      (Store.dropTag tag m).result = .ok dropped.length ∧
      ∀ key, (Store.dropTag tag m).state.entries.get? key =
        if key ∈ dropped then none else m.entries.get? key := by
  have tidy := tidy_replay history
  refine ⟨fun key tag => mem_keysOf_replay tag, fun tag found => (tidy tag [] found).1 rfl,
    fun tag => ⟨keysOf (replay history).index tag, tidy.nodup tag, fun key => mem_keysOf_replay tag,
      ?_, fun key => ?_⟩⟩
  · have count : (((replay history).clockAt now).dropTag tag).1 =
        (keysOf (replay history).index tag).length :=
      deleteAll_fst (tidy.nodup tag) fun key member => ((mem_keysOf_replay tag).1 member).1
    exact congrArg Except.ok count
  · exact get?_dropTag_of_index ((replay history).clockAt now) tag key

end Memory
end Eligibility
