/-
# Members under texts

What is found in the members of a map under a text is the value of the first member whose key is
that text (`Value.find?_eq_some_iff`).  Where no text stands twice there is only one, and the order
of the members makes no difference (`Value.find?_of_perm`).
-/

import Mathlib.Data.List.Find
import Mathlib.Data.List.Pairwise
import Eligibility.Value.Equal

namespace Eligibility
namespace Value

variable {members others more : List (Value × Value)} {key : String}

/-- Whether a member stands under a text. -/
def isUnder (key : String) (member : Value × Value) : Bool := member.1.asText? == some key

theorem find?_eq (members : List (Value × Value)) (key : String) :
    find? members key = (members.find? (isUnder key)).map (·.2) := by
  rw [find?]
  congr 2
  funext ⟨k, v⟩
  cases k <;> simp [isUnder, asText?]

theorem find?_append (members more : List (Value × Value)) (key : String) :
    find? (members ++ more) key = (find? members key).or (find? more key) := by
  rw [find?_eq, find?_eq, find?_eq, List.find?_append]
  cases members.find? (isUnder key) <;> simp

theorem asText?_eq_some_iff {v : Value} : v.asText? = some key ↔ v = text key := by
  cases v <;> simp [asText?]

theorem isUnder_iff {m : Value × Value} : isUnder key m = true ↔ m.1 = text key := by
  rw [isUnder, beq_iff_eq, asText?_eq_some_iff]

/-- A value is held under a text: it is that of the first member whose key is the text. -/
def Holds (members : List (Value × Value)) (key : String) (v : Value) : Prop :=
  ∃ before after, members = before ++ (text key, v) :: after ∧ ∀ m ∈ before, m.1 ≠ text key

/-- No member has the text for a key. -/
def Lacks (members : List (Value × Value)) (key : String) : Prop := ∀ m ∈ members, m.1 ≠ text key

/-- **What is found under a text is what is held there.** -/
theorem find?_eq_some_iff {v : Value} : find? members key = some v ↔ Holds members key v := by
  simp only [find?_eq, Option.map_eq_some_iff, List.find?_eq_some_iff_append, isUnder_iff,
    Bool.not_eq_true', Bool.eq_false_iff, Ne]
  constructor
  · rintro ⟨⟨_, _⟩, ⟨rfl, before, after, split, first⟩, rfl⟩
    exact ⟨before, after, split, first⟩
  · rintro ⟨before, after, split, first⟩
    exact ⟨_, ⟨rfl, before, after, split, first⟩, rfl⟩

theorem find?_eq_none_iff : find? members key = none ↔ Lacks members key := by
  rw [find?_eq, Option.map_eq_none_iff, List.find?_eq_none]
  simp only [isUnder_iff, Lacks, Ne]

/-- Nothing is found in members under a text that none of them stands under. -/
theorem find?_eq_none (none : ∀ m ∈ members, m.1.asText? ≠ some key) :
    find? members key = .none :=
  find?_eq_none_iff.2 fun m member same => none m member (asText?_eq_some_iff.2 same)

/-- Where no text stands twice, one member at most stands under a text. -/
theorem eq_of_isUnder (distinct : (members.filterMap (·.1.asText?)).Nodup) {m n : Value × Value}
    (inside : m ∈ members) (inside' : n ∈ members) (under : isUnder key m)
    (under' : isUnder key n) : m = n := by
  have : Std.Symm fun m n : Value × Value =>
      ∀ a, m.1.asText? = some a → ∀ b, n.1.asText? = some b → a ≠ b :=
    ⟨fun _ _ differ b found a found' => (differ a found' b found).symm⟩
  by_contra differ
  exact (List.pairwise_filterMap.1 distinct).forall inside inside' differ key (beq_iff_eq.1 under)
    key (beq_iff_eq.1 under') rfl

/-- Where no text stands twice, members are found whatever their order. -/
theorem find?_of_perm (distinct : (members.filterMap (·.1.asText?)).Nodup)
    (perm : members.Perm others) (key : String) : find? members key = find? others key := by
  rw [find?_eq, find?_eq, List.find?_eq_find?_of_perm perm]
  rintro m ⟨inside, under⟩ n ⟨inside', under'⟩
  exact eq_of_isUnder distinct inside inside' under under'

end Value
end Eligibility
