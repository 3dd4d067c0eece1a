/-
# Values that canonical text tells apart

Canonical text gives up some differences: between lists and tuples, between keys and the texts that
they are written as, between the order of members and that of their keys, and between a value that
JSON does not have and a map that looks like the object that stands for it.  A value is plain when
it has nothing of that: its lists are no tuples, and its maps have texts for keys, list them in one
order and look like no such object.

Different plain values have different canonical trees (`Plain.tree_inj`).
-/

import Eligibility.Proofs.Calendar.IsoText
import Eligibility.Proofs.Trial
import Eligibility.Proofs.Value.Quoted
import Eligibility.Subject.Canonical

namespace Eligibility
namespace Canonical

/-! ### Named members -/

/-- The members of a map with texts for keys. -/
def named (members : List (String × Value)) : List (Value × Value) :=
  members.map fun m => (.text m.1, m.2)

/-- Members in the order of their keys. -/
def inOrder (members : List (String × Value)) : List (String × Value) :=
  members.mergeSort fun a b => decide (a.1 ≤ b.1)

theorem inOrder_perm (members : List (String × Value)) : (inOrder members).Perm members :=
  List.mergeSort_perm ..

/-- The trees are those of the items, one by one. -/
def ItemTrees (items : List Value) (trees : List Json) : Prop :=
  List.Forall₂ (fun v t => tree v = .ok t) items trees

/-- The trees are those of the members, under the same keys, one by one. -/
def MemberTrees (members : List (String × Value)) (trees : List (String × Json)) : Prop :=
  List.Forall₂ (fun m t => m.1 = t.1 ∧ tree m.2 = .ok t.2) members trees

theorem treeItems_eq_ok {items : List Value} {trees : List Json} :
    treeItems items = .ok trees ↔ ItemTrees items trees :=
  collected_eq_ok tree treeItems rfl fun _ _ => rfl

theorem treeMembers_named (members : List (String × Value)) :
    treeMembers (named members) = members.map fun m => (.text m.1, tree m.2) := by
  induction members with
  | nil => rfl
  | cons m members ih => rw [named, List.map_cons, treeMembers, ← named, ih, List.map_cons]

/-- Members under texts are sorted by these. -/
theorem sortByKey_named {α : Type} (f : Value → α) (members : List (String × Value)) :
    sortByKey (members.map fun m => ((.text m.1 : Value), f m.2)) =
      .ok ((inOrder members).map fun m => (.text m.1, f m.2)) := by
  have texts : (members.map fun m => ((.text m.1 : Value), f m.2)).all
      fun m => m.1.asText?.isSome := by
    simp [Value.asText?]
  rw [sortByKey, if_pos texts, inOrder, List.map_mergeSort]
  intro a _ b _
  rfl

theorem keyed_eq_ok {m : String × Value} {t : String × Json} :
    (tree m.2 >>= fun j => .ok (m.1, j)) = .ok t ↔ m.1 = t.1 ∧ tree m.2 = .ok t.2 := by
  rw [bind_eq_ok]
  constructor
  · rintro ⟨j, came, same⟩
    obtain rfl := Except.ok.inj same
    exact ⟨rfl, came⟩
  · rintro ⟨key, came⟩
    exact ⟨t.2, came, by rw [key]⟩

theorem object_named {members : List (String × Value)} {trees : List (String × Json)} :
    object (members.map fun m => (.text m.1, tree m.2)) = .ok trees ↔
      MemberTrees members trees := by
  simp only [MemberTrees, ← keyed_eq_ok]
  refine collected_eq_ok _ (fun members : List (String × Value) =>
    object (members.map fun m => (.text m.1, tree m.2))) rfl fun m rest => ?_
  rw [List.map_cons, object, List.mapM_cons, ← object]
  rfl

/-- The tree of a map with texts for keys. -/
theorem tree_named {members : List (String × Value)} {t : Json} :
    tree (.map (named members)) = .ok t ↔
      ∃ trees, MemberTrees (inOrder members) trees ∧ t = .object trees := by
  rw [tree, treeMembers_named, sortByKey_named]
  simp only [bind_eq_ok, Except.ok.injEq, exists_eq_left', object_named]
  refine exists_congr fun trees => and_congr_right fun _ => ?_
  exact ⟨fun same => (Except.ok.inj same).symm, fun same => by rw [same]; rfl⟩

/-- The tree of a list. -/
theorem tree_list {items : List Value} {t : Json} :
    tree (.list items) = .ok t ↔ ∃ trees, ItemTrees items trees ∧ t = .array trees := by
  rw [tree]
  simp only [bind_eq_ok, treeItems_eq_ok]
  refine exists_congr fun trees => and_congr_right fun _ => ?_
  exact ⟨fun same => (Except.ok.inj same).symm, fun same => by rw [same]; rfl⟩

/-! ### Values that JSON does not have -/

/-- Whether JSON does not have a value: it is written as an object that names its kind. -/
def isForeign : Value → Bool
  | .missing => true
  | .decimal _ => true
  | .bytes _ => true
  | .date _ => true
  | .moment _ => true
  | .clock .. => true
  | .set _ => true
  | .frozenSet _ => true
  | _ => false

/-- The text of a value in the object that names its kind. -/
def namedText : Value → String
  | .date d => d.isoText
  | .moment m => m.isoText
  | .clock c offset => c.isoText ++ offsetText offset
  | v => v.quoted

theorem tree_foreign {v : Value} (foreign : isForeign v = true) :
    tree v = .ok (typed v (namedText v)) := by
  cases v with
  | missing | decimal | bytes | date | moment | clock | set | frozenSet => rfl
  | _ => cases foreign

/-- A value that JSON does not have is told by its kind and its text. -/
theorem foreign_inj {v w : Value} (foreign : isForeign v = true) (foreign' : isForeign w = true)
    (kind : v.kindName = w.kindName) (text : namedText v = namedText w) : v = w := by
  cases v with
  | date d =>
    cases w with
    | date e => rw [Date.isoText_inj text]
    | missing | decimal | bytes | moment | clock | set | frozenSet => simp [Value.kindName] at kind
    | _ => cases foreign'
  | moment m =>
    cases w with
    | moment n => rw [Moment.isoText_inj text]
    | missing | decimal | bytes | date | clock | set | frozenSet => simp [Value.kindName] at kind
    | _ => cases foreign'
  | clock c offset =>
    cases w with
    | clock d other =>
      obtain ⟨rfl, rfl⟩ := clockText_inj text
      rfl
    | missing | decimal | bytes | date | moment | set | frozenSet => simp [Value.kindName] at kind
    | _ => cases foreign'
  | missing | decimal | bytes | set | frozenSet =>
    cases w with
    | date | moment | clock => simp [Value.kindName] at kind
    | missing | decimal | bytes | set | frozenSet => exact Value.quoted_injective text
    | _ => cases foreign'
  | _ => cases foreign

/-- The trees of the members that stand for a value that JSON does not have. -/
def namedTrees (v : Value) : List (String × Json) :=
  [("__type__", .text v.kindName), ("value", .text (namedText v))]

/-- Members, in any order, that look like the object that stands for a value. -/
def LooksNamed (members : List (String × Value)) : Prop :=
  ∃ v, isForeign v = true ∧
    members.Perm [("__type__", .text v.kindName), ("value", .text (namedText v))]

/-! ### Plain values -/

/-- Values that canonical text tells apart; `before` is the order in which maps list their
members. -/
inductive Plain (before : String → String → Prop) : Value → Prop where
  | null : Plain before .null
  | bool (b : Bool) : Plain before (.bool b)
  | int (n : Int) : Plain before (.int n)
  | double (x : Double) : Plain before (.double x)
  | text (s : String) : Plain before (.text s)
  | foreign {v : Value} (foreign : isForeign v = true) : Plain before v
  | list {items : List Value} (all : ∀ v ∈ items, Plain before v) : Plain before (.list items)
  | map {members : List (String × Value)}
      (ordered : members.Pairwise fun a b => before a.1 b.1) (own : ¬LooksNamed members)
      (all : ∀ m ∈ members, Plain before m.2) : Plain before (.map (named members))

section

variable {before : String → String → Prop}

/-- What plain values have a tree. -/
def Shape (before : String → String → Prop) (v : Value) : Json → Prop
  | .null => v = .null
  | .bool b => v = .bool b
  | .int n => v = .int n
  | .double x => v = .double x
  | .text s => v = .text s
  | .array trees =>
    ∃ items, v = .list items ∧ (∀ w ∈ items, Plain before w) ∧ ItemTrees items trees
  | .object trees =>
    (∃ members, v = .map (named members) ∧ members.Pairwise (fun a b => before a.1 b.1) ∧
      ¬LooksNamed members ∧ (∀ m ∈ members, Plain before m.2) ∧
      MemberTrees (inOrder members) trees) ∨
    isForeign v = true ∧ trees = namedTrees v

theorem Plain.shape {v : Value} {t : Json} (plain : Plain before v) (came : tree v = .ok t) :
    Shape before v t := by
  cases plain with
  | null | bool | int | double | text =>
    rw [tree] at came
    obtain rfl := Except.ok.inj came
    rfl
  | foreign foreign =>
    rw [tree_foreign foreign] at came
    obtain rfl := Except.ok.inj came
    exact .inr ⟨foreign, rfl⟩
  | list all =>
    obtain ⟨trees, more, rfl⟩ := tree_list.1 came
    exact ⟨_, rfl, all, more⟩
  | map ordered own all =>
    obtain ⟨trees, more, rfl⟩ := tree_named.1 came
    exact .inl ⟨_, rfl, ordered, own, all, more⟩

theorem mem_of_mem_inOrder {members : List (String × Value)} {m : String × Value}
    (member : m ∈ inOrder members) : m ∈ members :=
  (inOrder_perm members).mem_iff.1 member

/-- The members of a plain map do not have the trees of an object that stands for a value. -/
theorem looksNamed_of_memberTrees {members : List (String × Value)} {v : Value}
    (foreign : isForeign v = true) (all : ∀ m ∈ members, Plain before m.2)
    (trees : MemberTrees (inOrder members) (namedTrees v)) : LooksNamed members := by
  have plain (m) (member : m ∈ inOrder members) := all m (mem_of_mem_inOrder member)
  refine ⟨v, foreign, (inOrder_perm members).symm.trans ?_⟩
  generalize inOrder members = ordered at trees plain
  obtain _ | @⟨⟨_, w⟩, _, _, _, ⟨rfl, first⟩, _ | @⟨⟨_, x⟩, _, _, _, ⟨rfl, second⟩, ⟨⟩⟩⟩ := trees
  obtain rfl : w = .text v.kindName := (plain _ (by simp)).shape first
  obtain rfl : x = .text (namedText v) := (plain _ (by simp)).shape second
  exact .refl _

theorem Plain.items_inj {items others : List Value} {trees : List Json}
    (told : ∀ v ∈ items, ∀ w t, Plain before w → tree v = .ok t → tree w = .ok t → v = w)
    (plain : ∀ w ∈ others, Plain before w) (came : ItemTrees items trees)
    (came' : ItemTrees others trees) : items = others := by
  induction came generalizing others with
  | nil =>
    cases came'
    rfl
  | cons first _ ih =>
    obtain _ | ⟨first', more'⟩ := came'
    rw [told _ (by simp) _ _ (plain _ (by simp)) first first',
      ih (fun v member => told v (by simp [member])) (fun w member => plain w (by simp [member]))
        more']

theorem Plain.members_inj {members others : List (String × Value)} {trees : List (String × Json)}
    (told : ∀ m ∈ members, ∀ w t, Plain before w → tree m.2 = .ok t → tree w = .ok t → m.2 = w)
    (plain : ∀ m ∈ others, Plain before m.2) (came : MemberTrees members trees)
    (came' : MemberTrees others trees) : members = others := by
  induction came generalizing others with
  | nil =>
    cases came'
    rfl
  | cons first _ ih =>
    obtain _ | ⟨first', more'⟩ := came'
    have key := first.1.trans first'.1.symm
    have value := told _ (by simp) _ _ (plain _ (by simp)) first.2 first'.2
    rw [Prod.ext key value, ih (fun m member => told m (by simp [member]))
      (fun m member => plain m (by simp [member])) more']

/-- Members in one order that have the same members in the order of keys are the same. -/
theorem eq_of_inOrder [Std.Asymm before] {members others : List (String × Value)}
    (ordered : members.Pairwise fun a b => before a.1 b.1)
    (ordered' : others.Pairwise fun a b => before a.1 b.1)
    (same : inOrder members = inOrder others) : members = others := by
  have perm : members.Perm others :=
    (inOrder_perm members).symm.trans (same ▸ inOrder_perm others)
  exact perm.eq_of_pairwise (fun a b _ _ first second => (Std.Asymm.asymm _ _ first second).elim)
    ordered ordered'

/-- **Different plain values have different trees.** -/
theorem Plain.tree_inj [Std.Asymm before] {v w : Value} {t : Json} (plain : Plain before v)
    (plain' : Plain before w) (came : tree v = .ok t) (came' : tree w = .ok t) : v = w := by
  induction plain generalizing w t with
  | null | bool | int | double | text =>
    rw [tree] at came
    obtain rfl := Except.ok.inj came
    exact (plain'.shape came').symm
  | foreign foreign =>
    rw [tree_foreign foreign] at came
    obtain rfl := Except.ok.inj came
    obtain ⟨members, -, -, own, all, trees⟩ | ⟨foreign', trees⟩ := plain'.shape came'
    · exact (own (looksNamed_of_memberTrees foreign all trees)).elim
    · simp only [namedTrees, List.cons.injEq, Prod.mk.injEq, Json.text.injEq, true_and,
        and_true] at trees
      exact foreign_inj foreign foreign' trees.1 trees.2
  | list all ih =>
    obtain ⟨trees, more, rfl⟩ := tree_list.1 came
    obtain ⟨others, rfl, all', more'⟩ := plain'.shape came'
    rw [items_inj (fun v member w t => ih v member) all' more more']
  | map ordered own all ih =>
    obtain ⟨trees, more, rfl⟩ := tree_named.1 came
    obtain ⟨others, rfl, ordered', -, all', more'⟩ | ⟨foreign', rfl⟩ := plain'.shape came'
    · have same := members_inj (fun m member w t => ih m (mem_of_mem_inOrder member))
        (fun m member => all' m (mem_of_mem_inOrder member)) more more'
      rw [eq_of_inOrder ordered ordered' same]
    · exact (own (looksNamed_of_memberTrees foreign' all more)).elim

end

end Canonical
end Eligibility
