/-
# Keyed lists

A finite map as a list of pairs in which no key comes twice.  Two laws say what every operation
does to `get?`, which is all that may be asked of a keyed list besides its keys and its size.
-/

namespace Eligibility

/-- Pairs of a key and a value, each key at most once. -/
structure Keyed (κ α : Type) where
  toList : List (κ × α)
  nodup : (toList.map Prod.fst).Nodup

namespace Keyed

variable {κ α : Type}

/-- No pairs. -/
def empty : Keyed κ α := ⟨[], List.nodup_nil⟩

instance : Inhabited (Keyed κ α) := ⟨empty⟩

instance : EmptyCollection (Keyed κ α) := ⟨empty⟩

/-- The keys. -/
def keys (m : Keyed κ α) : List κ := m.toList.map Prod.fst

/-- The number of pairs. -/
def size (m : Keyed κ α) : Nat := m.toList.length

variable [DecidableEq κ]

/-- The value under a key. -/
def get? (m : Keyed κ α) (k : κ) : Option α := (m.toList.find? fun p => p.1 = k).map Prod.snd

/-- Whether there is a value under a key. -/
def contains (m : Keyed κ α) (k : κ) : Bool := (m.get? k).isSome

/-- The pairs whose key is another. -/
def erase (m : Keyed κ α) (k : κ) : Keyed κ α where
  toList := m.toList.filter fun p => p.1 ≠ k
  nodup := (List.filter_sublist.map Prod.fst).nodup m.nodup

theorem not_mem_keys_erase (m : Keyed κ α) (k : κ) : k ∉ (m.erase k).keys := by
  simp [keys, erase]

/-- Put a value under a key, in place of the one that was there. -/
def insert (m : Keyed κ α) (k : κ) (a : α) : Keyed κ α where
  toList := (k, a) :: (m.erase k).toList
  nodup := List.nodup_cons.2 ⟨m.not_mem_keys_erase k, (m.erase k).nodup⟩

/-- Put values under keys, one after another. -/
def ofList (pairs : List (κ × α)) : Keyed κ α := pairs.foldl (fun m p => m.insert p.1 p.2) empty

@[simp] theorem get?_empty (k : κ) : (empty : Keyed κ α).get? k = none := rfl

theorem get?_erase (m : Keyed κ α) (j k : κ) :
    (m.erase j).get? k = if k = j then none else m.get? k := by
  simp only [get?, erase, List.find?_filter]
  split
  · next h =>
    subst h
    simp
  · next h =>
    congr 2
    funext p
    by_cases hp : p.1 = k <;> simp [hp, h]

theorem get?_insert (m : Keyed κ α) (j k : κ) (a : α) :
    (m.insert j a).get? k = if k = j then some a else m.get? k := by
  by_cases h : k = j
  · simp [get?, insert, h]
  · have ne : j ≠ k := fun e => h e.symm
    have := m.get?_erase j k
    simp only [get?, h, if_false] at this
    simp [get?, insert, ne, h, this]

theorem mem_toList_iff (m : Keyed κ α) (k : κ) (a : α) :
    (k, a) ∈ m.toList ↔ m.get? k = some a := by
  obtain ⟨pairs, nodup⟩ := m
  simp only [get?]
  induction pairs with
  | nil => simp
  | cons p rest ih =>
    obtain ⟨j, b⟩ := p
    simp only [List.map_cons, List.nodup_cons] at nodup
    by_cases h : j = k
    · subst h
      have absent : (j, a) ∉ rest := fun member => nodup.1 (List.mem_map.2 ⟨_, member, rfl⟩)
      simp [absent, eq_comm]
    · have ne : k ≠ j := fun e => h e.symm
      simp [h, ne, ih nodup.2]

theorem mem_keys_iff (m : Keyed κ α) (k : κ) : k ∈ m.keys ↔ m.contains k := by
  simp only [keys, List.mem_map, contains, Option.isSome_iff_exists]
  constructor
  · rintro ⟨⟨_, a⟩, member, rfl⟩
    exact ⟨a, (m.mem_toList_iff _ _).1 member⟩
  · rintro ⟨a, found⟩
    exact ⟨(k, a), (m.mem_toList_iff _ _).2 found, rfl⟩

end Keyed
end Eligibility
