/-
# The entries and the index of a store in memory

Every operation removes entries, and only a put adds one, so what holds of every entry that is
put holds of every entry that is found (`Memory.All`).  The index follows the entries: a key
stands under a tag exactly when its entry carries the tag (`Memory.Indexed`).  That is what makes
dropping a tag complete (`Memory.get?_dropTag`): of the entries that carry the tag none is left,
and the others are as they were.
-/

import Eligibility.Proofs.Service.Run
import Eligibility.Store.Memory

namespace Eligibility

namespace TagIndex

theorem keysOf_remove (index : TagIndex) (key tag other : String) :
    keysOf (remove index key tag) other =
      if other = tag then (keysOf index tag).filter (· != key) else keysOf index other := by
  unfold remove keysOf
  cases found : index.get? tag with
  | none =>
    dsimp only
    split
    · next same => simp [same, found]
    · rfl
  | some keys =>
    dsimp only
    split
    · next none =>
      rw [Keyed.get?_erase]
      split
      · simp only [List.isEmpty_iff] at none
        simp [none]
      · rfl
    · rw [Keyed.get?_insert]
      split <;> rfl

theorem keysOf_removeAll (index : TagIndex) (key : String) (tags : List String) (other : String) :
    keysOf (removeAll index key tags) other =
      if other ∈ tags then (keysOf index other).filter (· != key) else keysOf index other := by
  induction tags generalizing index with
  | nil => simp [removeAll]
  | cons tag rest ih =>
    have step : removeAll index key (tag :: rest) = removeAll (remove index key tag) key rest := rfl
    rw [step, ih, keysOf_remove]
    by_cases same : other = tag
    · subst same
      simp [List.filter_filter]
    · simp [same]

theorem mem_keysOf_add (index : TagIndex) (key tag k other : String) :
    k ∈ keysOf (add index key tag) other ↔ k ∈ keysOf index other ∨ other = tag ∧ k = key := by
  unfold add
  rw [keysOf, Keyed.get?_insert]
  by_cases same : other = tag
  · subst same
    simp only [if_true, Option.getD_some, true_and]
    split
    · next there =>
      refine ⟨.inl, fun either => either.elim id ?_⟩
      rintro rfl
      simpa using there
    · simp
  · simp [same, keysOf]

theorem mem_keysOf_addAll (index : TagIndex) (key : String) (tags : List String)
    (k other : String) :
    k ∈ keysOf (addAll index key tags) other ↔ k ∈ keysOf index other ∨ other ∈ tags ∧ k = key := by
  induction tags generalizing index with
  | nil => simp [addAll]
  | cons tag rest ih =>
    have step : addAll index key (tag :: rest) = addAll (add index key tag) key rest := rfl
    rw [step, ih, mem_keysOf_add]
    simp only [List.mem_cons, or_and_right, or_assoc]

theorem keysOf_erase (index : TagIndex) (tag other : String) :
    keysOf (index.erase tag) other = if other = tag then [] else keysOf index other := by
  unfold keysOf
  rw [Keyed.get?_erase]
  split <;> rfl

end TagIndex

namespace Memory

open TagIndex (keysOf)

variable {m : Memory}

/-! ### Entries -/

theorem get?_remove (m : Memory) (key k : String) :
    (m.remove key).entries.get? k = if k = key then none else m.entries.get? k := by
  unfold remove
  cases found : m.entries.get? key with
  | none =>
    dsimp only
    split
    · next same => rw [same, found]
    · rfl
  | some entry => exact Keyed.get?_erase m.entries key k

theorem remove_of_absent {key : String} (absent : m.entries.get? key = none) : m.remove key = m := by
  rw [remove, absent]

theorem remove_remove (m : Memory) (key : String) : (m.remove key).remove key = m.remove key := by
  have absent : (m.remove key).entries.get? key = none := by rw [get?_remove, if_pos rfl]
  exact remove_of_absent absent

/-- A put removes what is there itself. -/
theorem put_remove (m : Memory) (key : String) (entry : Entry) :
    (m.remove key).put key entry = m.put key entry := by
  rw [put, put, remove_remove]

theorem get?_put (m : Memory) (key : String) (entry : Entry) (k : String) :
    (m.put key entry).entries.get? k = if k = key then some entry else m.entries.get? k := by
  unfold put
  rw [Keyed.get?_insert, get?_remove]
  split <;> rfl

theorem get?_deleteAll (m : Memory) (keys : List String) (k : String) :
    (m.deleteAll keys).2.entries.get? k = if k ∈ keys then none else m.entries.get? k := by
  induction keys generalizing m with
  | nil => simp [deleteAll]
  | cons key rest ih =>
    have step : (m.deleteAll (key :: rest)).2 = ((m.remove key).deleteAll rest).2 := rfl
    rw [step, ih, get?_remove]
    by_cases later : k ∈ rest <;> by_cases same : k = key <;> simp [later, same]

theorem get?_dropTag_of_index (m : Memory) (tag k : String) :
    (m.dropTag tag).2.entries.get? k =
      if k ∈ keysOf m.index tag then none else m.entries.get? k :=
  get?_deleteAll _ _ _

/-- A look-up leaves the entries or removes the one under its key. -/
theorem get_cases (m : Memory) (key : String) :
    (m.get key).2 = m ∨ (m.get key).1 = none ∧ (m.get key).2 = m.remove key := by
  unfold get
  split
  · exact .inl rfl
  · exact .inr ⟨rfl, rfl⟩

theorem entry_of_get {key value : String} (found : (m.get key).1 = some value) :
    ∃ entry, m.entries.get? key = some entry ∧ entry.value = value := by
  unfold get at found
  split at found
  · next live =>
    obtain rfl := Option.some.inj found
    unfold live? at live
    split at live
    · cases live
    · next entry there =>
      split at live
      · cases live
      · exact ⟨entry, there, Option.some.inj live⟩
  · cases found

/-- Every entry is as `W` has it. -/
def All (W : String → String → List String → Prop) (m : Memory) : Prop :=
  ∀ key entry, m.entries.get? key = some entry → W key entry.value entry.tags

section All

variable {W : String → String → List String → Prop}

theorem all_empty (none : m.entries = .empty) : m.All W := by
  intro key entry there
  rw [none] at there
  cases there

/-- An invariant of entries is kept when no entry comes in. -/
theorem All.mono {m' : Memory} (h : m.All W)
    (fewer : ∀ key entry, m'.entries.get? key = some entry → m.entries.get? key = some entry) :
    m'.All W :=
  fun key entry there => h key entry (fewer key entry there)

theorem All.remove (h : m.All W) (key : String) : (m.remove key).All W := by
  refine h.mono fun k entry there => ?_
  rw [get?_remove] at there
  split at there
  · cases there
  · exact there

theorem All.put (h : m.All W) {key : String} {entry : Entry} (w : W key entry.value entry.tags) :
    (m.put key entry).All W := by
  intro k found there
  rw [get?_put] at there
  split at there
  · next same =>
    obtain rfl := Option.some.inj there
    rwa [same]
  · exact h k found there

theorem All.deleteAll (h : m.All W) (keys : List String) : (m.deleteAll keys).2.All W := by
  refine h.mono fun k entry there => ?_
  rw [get?_deleteAll] at there
  split at there
  · cases there
  · exact there

theorem All.dropTag (h : m.All W) (tag : String) : (m.dropTag tag).2.All W :=
  All.deleteAll (m := { m with index := m.index.erase tag }) h _

theorem All.get (h : m.All W) (key : String) : (m.get key).2.All W := by
  rcases m.get_cases key with same | ⟨-, removed⟩
  · rwa [same]
  · rw [removed]
    exact h.remove key

end All

/-! ### The index -/

/-- The keys under the tags in `T` are those of the entries that carry them. -/
def IndexedOn (T : String → Prop) (m : Memory) : Prop :=
  ∀ key tag, T tag →
    (key ∈ keysOf m.index tag ↔ ∃ entry, m.entries.get? key = some entry ∧ tag ∈ entry.tags)

/-- A key stands under a tag exactly when its entry carries the tag. -/
def Indexed (m : Memory) : Prop := m.IndexedOn fun _ => True

theorem indexed_empty (none : m.entries = .empty) (noTag : m.index = .empty) : m.Indexed := by
  intro key tag _
  rw [none, noTag]
  simp [keysOf]

variable {T : String → Prop}

theorem IndexedOn.remove (h : m.IndexedOn T) (key : String) : (m.remove key).IndexedOn T := by
  intro k tag inT
  have before := h k tag inT
  rw [get?_remove]
  unfold Memory.remove
  cases found : m.entries.get? key with
  | none =>
    by_cases same : k = key
    · subst same
      simpa [found] using before
    · simpa [same] using before
  | some entry =>
    dsimp only
    rw [TagIndex.keysOf_removeAll]
    by_cases same : k = key
    · subst same
      rw [if_pos rfl]
      split
      · simp
      · next untagged =>
        rw [before, found]
        simp [untagged]
    · rw [if_neg same]
      split
      · rw [List.mem_filter, before]
        simp [same]
      · exact before

theorem IndexedOn.deleteAll (h : m.IndexedOn T) (keys : List String) :
    (m.deleteAll keys).2.IndexedOn T := by
  induction keys generalizing m with
  | nil => exact h
  | cons key rest ih => exact ih (h.remove key)

theorem Indexed.put (h : m.Indexed) (key : String) (entry : Entry) : (m.put key entry).Indexed := by
  intro k tag _
  rw [get?_put]
  have before := h.remove key k tag True.intro
  rw [get?_remove] at before
  show k ∈ keysOf (TagIndex.addAll (m.remove key).index key entry.tags) tag ↔ _
  rw [TagIndex.mem_keysOf_addAll, before]
  by_cases same : k = key
  · simp [same]
  · simp [same]

/-- A tag that is not in the index stays out of it. -/
theorem keysOf_deleteAll_nil {tag : String} (none : keysOf m.index tag = []) (keys : List String) :
    keysOf (m.deleteAll keys).2.index tag = [] := by
  induction keys generalizing m with
  | nil => exact none
  | cons key rest ih =>
    refine ih (m := m.remove key) ?_
    unfold remove
    split
    · exact none
    · rw [TagIndex.keysOf_removeAll, none]
      split <;> rfl

theorem Indexed.dropTag (h : m.Indexed) (tag : String) : (m.dropTag tag).2.Indexed := by
  have without : IndexedOn (· ≠ tag) { m with index := m.index.erase tag } := by
    intro key other ne
    rw [TagIndex.keysOf_erase, if_neg ne]
    exact h key other True.intro
  intro key other _
  by_cases same : other = tag
  · subst same
    have gone : keysOf (m.dropTag other).2.index other = [] :=
      keysOf_deleteAll_nil (by rw [TagIndex.keysOf_erase, if_pos rfl]) _
    rw [gone, get?_dropTag_of_index]
    refine ⟨fun no => absurd no List.not_mem_nil, ?_⟩
    rintro ⟨entry, there, carries⟩
    split at there
    · cases there
    · next absent => exact absurd ((h key other True.intro).2 ⟨entry, there, carries⟩) absent
  · exact without.deleteAll _ key other same

theorem Indexed.get (h : m.Indexed) (key : String) : (m.get key).2.Indexed := by
  rcases m.get_cases key with same | ⟨-, removed⟩
  · rwa [same]
  · rw [removed]
    exact IndexedOn.remove h key

/-- **Dropping a tag removes the entries that carry it**, and no other. -/
theorem get?_dropTag (h : m.Indexed) (tag key : String) :
    (m.dropTag tag).2.entries.get? key =
      (m.entries.get? key).filter fun entry => !entry.tags.contains tag := by
  rw [get?_dropTag_of_index]
  have listed := h key tag True.intro
  cases found : m.entries.get? key with
  | none => simp
  | some entry =>
    rw [found] at listed
    by_cases carries : tag ∈ entry.tags
    · rw [if_pos (listed.2 ⟨entry, rfl, carries⟩)]
      simp [Option.filter, carries]
    · rw [if_neg fun member => ?_]
      · simp [Option.filter, carries]
      · obtain ⟨entry', eq, carries'⟩ := listed.1 member
        obtain rfl := Option.some.inj eq
        exact carries carries'

/-! ### Operations -/

/-- A put replaces the entry under its key, or removes it when the new one would have no end. -/
theorem putFor_cases (m : Memory) (key value : String) (lifetime : Int) (tags : List String) :
    (∃ expires, putFor key value lifetime tags m =
      ⟨.ok (), m.put key { value, expires, tags }, []⟩) ∨
    ∃ failure, putFor key value lifetime tags m = ⟨.error failure, m.remove key, []⟩ := by
  unfold putFor
  split
  · next expires _ => exact .inl ⟨expires, rfl⟩
  · next failure _ => exact .inr ⟨failure, rfl⟩

theorem now_remove (m : Memory) (key : String) : (m.remove key).now = m.now := by
  unfold remove
  split <;> rfl

theorem expiry_remove (m : Memory) (key : String) (lifetime : Int) :
    (m.remove key).expiry lifetime = m.expiry lifetime := by
  unfold expiry
  rw [now_remove]

/-- A put that returns has put its text, and there was an end for it. -/
theorem put_of_ok {key value : String} {lifetime : Int} {tags : List String}
    (came : (Store.put key value lifetime tags m).result = .ok ()) :
    ∃ expires, m.expiry lifetime = .ok expires ∧
      (Store.put key value lifetime tags m).state = m.put key ⟨value, expires, tags⟩ := by
  change (putFor key value lifetime tags m).result = _ at came
  change ∃ expires, _ ∧ (putFor key value lifetime tags m).state = _
  unfold putFor at came ⊢
  cases ends : m.expiry lifetime with
  | ok expires => exact ⟨expires, rfl, rfl⟩
  | error failure =>
    rw [ends] at came
    cases came

/-- What holds of every entry that is put is kept by every operation, and so is the index. -/
theorem keeps (κ : String → Prop) (W : String → String → List String → Prop) :
    Store.Keeps (fun m : Memory => m.All W ∧ m.Indexed) κ
      (fun key value => ∃ tags, W key value tags) W where
  get key _ := by
    refine .ofPair fun m inv => ⟨⟨inv.1.get key, inv.2.get key⟩, fun value found => ?_⟩
    obtain ⟨entry, there, rfl⟩ := entry_of_get found
    exact ⟨entry.tags, inv.1 key entry there⟩
  put key value lifetime tags w := by
    intro m inv
    refine ⟨?_, fun _ _ => True.intro⟩
    show (fun m : Memory => m.All W ∧ m.Indexed) (putFor key value lifetime tags m).state
    rcases m.putFor_cases key value lifetime tags with ⟨expires, done⟩ | ⟨failure, done⟩
    · rw [done]
      exact ⟨inv.1.put w, Indexed.put inv.2 key _⟩
    · rw [done]
      exact ⟨inv.1.remove key, IndexedOn.remove inv.2 key⟩
  delete key _ := .ofPair fun m inv => ⟨⟨inv.1.remove key, IndexedOn.remove inv.2 key⟩, True.intro⟩
  holds key _ := by
    refine .ofPair fun m inv => ⟨⟨inv.1.get key, inv.2.get key⟩, fun found => ?_⟩
    obtain ⟨value, read⟩ := Option.isSome_iff_exists.1 found
    obtain ⟨entry, there, rfl⟩ := entry_of_get read
    exact ⟨entry.value, entry.tags, inv.1 key entry there⟩
  dropTag tag := by
    refine Action.Keeps.bind (Q := fun _ => True) (.ofPair fun m inv => ?_) fun count _ => ?_
    · exact ⟨⟨inv.1.dropTag tag, inv.2.dropTag tag⟩, True.intro⟩
    · exact Action.Keeps.note.andThen fun _ => .pure True.intro
  flush m _ _ := ⟨all_empty rfl, indexed_empty rfl rfl⟩

theorem keeps_flush (W : String → String → List String → Prop) :
    Action.Keeps (fun m : Memory => m.All W ∧ m.Indexed) (Store.flush (σ := Memory))
      fun _ => True :=
  .ofPair fun _ _ => ⟨⟨all_empty rfl, indexed_empty rfl rfl⟩, True.intro⟩

end Memory

namespace Service

/-- Time passes for a store in memory. -/
instance : Surroundings Memory Double := ⟨fun seconds m => m.advance seconds⟩

end Service
end Eligibility
