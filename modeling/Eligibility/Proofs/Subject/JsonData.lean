/-
# JSON data and its canonical text

JSON data is what is built from `null`, truth values, whole numbers, finite doubles, texts, lists
and maps with texts for keys.  Such a value always has a canonical text, and two of them have the
same text exactly when they hold the same data (`Canonical.text_eq_iff_sameData`): they are equal
but for the order in which their maps list the members, at every depth.  Nothing else is lost: a
number is told from a truth value and from its text, a whole number from a double, and one zero
from the other.

The canonical tree is in between.  It lists the members of a map by their keys, so values with the
same data have the same tree (`Canonical.SameData.tree_eq`), and it can be read back up to that
order (`Canonical.sameData_of_tree`).
-/

import Eligibility.Proofs.Service.Key
import Eligibility.Proofs.Subject.SameText

namespace Eligibility
namespace Canonical

/-- JSON data. No key comes twice in a map. -/
inductive JsonData : Value → Prop
  | null : JsonData .null
  | bool (b : Bool) : JsonData (.bool b)
  | int (n : Int) : JsonData (.int n)
  | double {x : Double} (finite : x.isFinite = true) : JsonData (.double x)
  | text (s : String) : JsonData (.text s)
  | list {items : List Value} (all : ∀ v ∈ items, JsonData v) : JsonData (.list items)
  | map {members : List (String × Value)} (distinct : (members.map (·.1)).Nodup)
      (all : ∀ m ∈ members, JsonData m.2) : JsonData (.map (named members))

/-- Two values hold the same data: they are equal but for the order of members in maps.  Lists hold
the same data item by item, and maps have the same keys and the same data under each. -/
inductive SameData : Value → Value → Prop
  | refl (v : Value) : SameData v v
  | list {items others : List Value} (length : items.length = others.length)
      (each : ∀ v w, (v, w) ∈ items.zip others → SameData v w) :
      SameData (.list items) (.list others)
  | map {members others : List (String × Value)}
      (keys : (members.map (·.1)).Perm (others.map (·.1)))
      (each : ∀ key v w, (key, v) ∈ members → (key, w) ∈ others → SameData v w) :
      SameData (.map (named members)) (.map (named others))

/-- The members of a map may come in any order. -/
theorem SameData.reorder {members others : List (String × Value)}
    (distinct : (members.map (·.1)).Nodup) (perm : members.Perm others) :
    SameData (.map (named members)) (.map (named others)) := by
  refine .map (perm.map _) fun key v w member member' => ?_
  have equal : (key, v) = (key, w) :=
    List.inj_on_of_nodup_map distinct member (perm.mem_iff.2 member') rfl
  cases equal
  exact .refl v

/-! ### Lists side by side -/

section Lists

variable {α β γ : Type} {R : α → γ → Prop} {S : α → β → Prop} {T : β → γ → Prop} {as : List α}
  {bs : List β} {cs : List γ}

theorem exists_forall₂ (each : ∀ a ∈ as, ∃ c, R a c) : ∃ cs, List.Forall₂ R as cs := by
  induction as with
  | nil => exact ⟨[], .nil⟩
  | cons a as ih =>
    obtain ⟨c, first⟩ := each a (by simp)
    obtain ⟨cs, more⟩ := ih fun b member => each b (by simp [member])
    exact ⟨c :: cs, .cons first more⟩

/-- What holds along two lists is carried over to a third. -/
theorem forall₂_trans (first : List.Forall₂ S as bs) (second : List.Forall₂ R as cs)
    (carry : ∀ a b c, S a b → R a c → T b c) : List.Forall₂ T bs cs := by
  induction first generalizing cs with
  | nil =>
    cases second
    exact .nil
  | cons related _ ih =>
    obtain _ | ⟨own, more⟩ := second
    exact .cons (carry _ _ _ related own) (ih more)

theorem exists_mem_of_forall₂ (related : List.Forall₂ S as bs) {a : α} (member : a ∈ as) :
    ∃ b ∈ bs, S a b := by
  induction related with
  | nil => cases member
  | cons own _ ih =>
    rcases List.mem_cons.1 member with rfl | member
    · exact ⟨_, by simp, own⟩
    · obtain ⟨b, found, holds⟩ := ih member
      exact ⟨b, by simp [found], holds⟩

end Lists

/-! ### The members of a map in the order of their keys -/

theorem keys_inOrder (members : List (String × Value)) :
    (inOrder members).map (·.1) = (members.map (·.1)).mergeSort fun a b => decide (a ≤ b) := by
  rw [inOrder, List.map_mergeSort]
  intro a _ b _
  rfl

/-- Members with the same keys have them in one order. -/
theorem keys_inOrder_of_perm {members others : List (String × Value)}
    (keys : (members.map (·.1)).Perm (others.map (·.1))) :
    (inOrder members).map (·.1) = (inOrder others).map (·.1) := by
  have trans (a b c : String) (first : decide (a ≤ b) = true) (second : decide (b ≤ c) = true) :
      decide (a ≤ c) = true :=
    decide_eq_true (String.le_trans (of_decide_eq_true first) (of_decide_eq_true second))
  have total (a b : String) : (decide (a ≤ b) || decide (b ≤ a)) = true := by
    simpa using String.le_total a b
  have sorted (texts : List String) :
      (texts.mergeSort fun a b => decide (a ≤ b)).Pairwise fun a b => a ≤ b :=
    (List.pairwise_mergeSort trans total texts).imp of_decide_eq_true
  rw [keys_inOrder, keys_inOrder]
  refine List.Perm.eq_of_pairwise (fun a b _ _ first second => String.le_antisymm first second)
    (sorted _) (sorted _) ?_
  exact (List.mergeSort_perm ..).trans (keys.trans (List.mergeSort_perm ..).symm)

/-- The members that stand side by side have the same key. -/
theorem forall₂_inOrder {members others : List (String × Value)}
    (keys : (inOrder members).map (·.1) = (inOrder others).map (·.1)) :
    List.Forall₂ (fun m n => m.1 = n.1 ∧ m ∈ members ∧ n ∈ others) (inOrder members)
      (inOrder others) := by
  have along : List.Forall₂ (fun m n : String × Value => m.1 = n.1) (inOrder members)
      (inOrder others) := by
    rw [← List.forall₂_eq_eq_eq, List.forall₂_map_left_iff, List.forall₂_map_right_iff] at keys
    exact keys
  rw [List.forall₂_iff_zip] at along ⊢
  refine ⟨along.1, fun {m n} pair => ⟨along.2 pair, ?_, ?_⟩⟩
  · exact mem_of_mem_inOrder (List.of_mem_zip pair).1
  · exact mem_of_mem_inOrder (List.of_mem_zip pair).2

/-! ### Trees -/

/-- What JSON data has a tree. -/
def JsonShape (v : Value) : Json → Prop
  | .null => v = .null
  | .bool b => v = .bool b
  | .int n => v = .int n
  | .double x => v = .double x
  | .text s => v = .text s
  | .array trees => ∃ items, v = .list items ∧ (∀ w ∈ items, JsonData w) ∧ ItemTrees items trees
  | .object trees =>
    ∃ members, v = .map (named members) ∧ (members.map (·.1)).Nodup ∧
      (∀ m ∈ members, JsonData m.2) ∧ MemberTrees (inOrder members) trees

variable {v w : Value} {t : Json}

theorem JsonData.shape (data : JsonData v) (came : tree v = .ok t) : JsonShape v t := by
  cases data with
  | null | bool | int | double | text =>
    rw [tree] at came
    obtain rfl := Except.ok.inj came
    rfl
  | list all =>
    obtain ⟨trees, more, rfl⟩ := tree_list.1 came
    exact ⟨_, rfl, all, more⟩
  | map distinct all =>
    obtain ⟨trees, more, rfl⟩ := tree_named.1 came
    exact ⟨_, rfl, distinct, all, more⟩

/-- **JSON data has a canonical tree.** -/
theorem JsonData.exists_tree (data : JsonData v) : ∃ t, tree v = .ok t := by
  induction data with
  | null | bool | int | double | text => exact ⟨_, rfl⟩
  | list all ih =>
    obtain ⟨trees, more⟩ := exists_forall₂ ih
    exact ⟨.array trees, tree_list.2 ⟨trees, more, rfl⟩⟩
  | @map members distinct all ih =>
    have each : ∀ m ∈ inOrder members, ∃ t : String × Json, m.1 = t.1 ∧ tree m.2 = .ok t.2 := by
      intro m member
      obtain ⟨t, came⟩ := ih m (mem_of_mem_inOrder member)
      exact ⟨(m.1, t), rfl, came⟩
    obtain ⟨trees, more⟩ := exists_forall₂ each
    exact ⟨.object trees, tree_named.2 ⟨trees, more, rfl⟩⟩

/-- **Values that hold the same data have the same tree.** -/
theorem SameData.tree_eq (same : SameData v w) (came : tree v = .ok t) : tree w = .ok t := by
  induction same generalizing t with
  | refl => exact came
  | list length each ih =>
    obtain ⟨trees, more, rfl⟩ := tree_list.1 came
    have along : List.Forall₂ (fun v w => ∀ t, tree v = .ok t → tree w = .ok t) _ _ :=
      List.forall₂_iff_zip.2 ⟨length, fun {v w} pair t own => ih v w pair own⟩
    exact tree_list.2 ⟨trees, forall₂_trans along more fun _ _ t carry own => carry t own, rfl⟩
  | map keys each ih =>
    obtain ⟨trees, more, rfl⟩ := tree_named.1 came
    refine tree_named.2 ⟨trees, ?_, rfl⟩
    refine forall₂_trans (forall₂_inOrder (keys_inOrder_of_perm keys)) more ?_
    rintro ⟨key, v⟩ ⟨_, w⟩ u ⟨rfl, member, member'⟩ ⟨key_eq, own⟩
    exact ⟨key_eq, ih key v w member member' own⟩

/-- **JSON data with the same tree is the same data.** -/
theorem sameData_of_tree (data : JsonData v) (data' : JsonData w) (came : tree v = .ok t)
    (came' : tree w = .ok t) : SameData v w := by
  induction data generalizing w t with
  | null | bool | int | double | text =>
    rw [tree] at came
    obtain rfl := Except.ok.inj came
    rw [data'.shape came']
    exact .refl _
  | list all ih =>
    obtain ⟨trees, more, rfl⟩ := tree_list.1 came
    obtain ⟨others, rfl, all', more'⟩ := data'.shape came'
    have along : List.Forall₂ (fun v w => ∃ t, tree v = .ok t ∧ tree w = .ok t) _ others :=
      forall₂_trans more.flip more'.flip fun t _ _ own own' => ⟨t, own, own'⟩
    refine .list along.length_eq fun v w pair => ?_
    obtain ⟨t, own, own'⟩ := (List.forall₂_iff_zip.1 along).2 pair
    exact ih v (List.of_mem_zip pair).1 (all' w (List.of_mem_zip pair).2) own own'
  | @map members distinct all ih =>
    obtain ⟨trees, more, rfl⟩ := tree_named.1 came
    obtain ⟨others, rfl, distinct', all', more'⟩ := data'.shape came'
    have along : List.Forall₂
        (fun m n => m.1 = n.1 ∧ ∃ t, tree m.2 = .ok t ∧ tree n.2 = .ok t)
        (inOrder members) (inOrder others) := by
      refine forall₂_trans more.flip more'.flip fun t m n own own' => ?_
      exact ⟨own.1.trans own'.1.symm, t.2, own.2, own'.2⟩
    have keys : (inOrder members).map (·.1) = (inOrder others).map (·.1) := by
      rw [← List.forall₂_eq_eq_eq, List.forall₂_map_left_iff, List.forall₂_map_right_iff]
      exact along.imp fun _ _ related => related.1
    refine .map ?_ fun key v w member member' => ?_
    · have perm := (inOrder_perm members).map (·.1)
      rw [keys] at perm
      exact perm.symm.trans ((inOrder_perm others).map _)
    · -- What stands beside a member is the member with its key, as no key comes twice.
      obtain ⟨n, beside, same, t, own, own'⟩ :=
        exists_mem_of_forall₂ along ((inOrder_perm members).mem_iff.2 member)
      have theirs : n = (key, w) :=
        List.inj_on_of_nodup_map distinct' (mem_of_mem_inOrder beside) member' same.symm
      rw [theirs] at own'
      exact ih (key, v) member (all' (key, w) member') own own'

/-! ### Texts and keys -/

/-- Two values have different texts with one digest. -/
def Collide (v w : Value) : Prop :=
  ∃ x y, text v = .ok x ∧ text w = .ok y ∧ x ≠ y ∧ Digest.ofAscii x = Digest.ofAscii y

theorem JsonData.exists_text (data : JsonData v) : ∃ x, Canonical.text v = .ok x := by
  obtain ⟨t, came⟩ := data.exists_tree
  exact ⟨_, text_eq_ok.2 ⟨t, came, rfl⟩⟩

/-- Values with the same text have the same tree. -/
theorem tree_of_text {x : String} (came : text v = .ok x) (came' : text w = .ok x) :
    ∃ t, tree v = .ok t ∧ tree w = .ok t := by
  obtain ⟨t, own, shown⟩ := text_eq_ok.1 came
  obtain ⟨u, own', shown'⟩ := text_eq_ok.1 came'
  rw [Json.asciiText_injective (shown'.trans shown.symm)] at own'
  exact ⟨t, own, own'⟩

theorem SameData.text_eq {x : String} (same : SameData v w) (came : text v = .ok x) :
    text w = .ok x := by
  obtain ⟨t, own, shown⟩ := text_eq_ok.1 came
  exact text_eq_ok.2 ⟨t, same.tree_eq own, shown⟩

theorem digest_of_text {x : String} (came : text v = .ok x) :
    digest v = .ok (Digest.ofAscii x) := by
  rw [digest, came]
  rfl

/-- **Canonical text is a faithful encoding of JSON data, whatever the order of its members.**
Two values have the same text exactly when they hold the same data, and then they have the same
key with every criteria.  Values of different data share a key only when their digests collide. -/
theorem text_eq_iff_sameData (data : JsonData v) (data' : JsonData w) :
    (∃ x y, text v = .ok x ∧ text w = .ok y ∧ (x = y ↔ SameData v w)) ∧
    (∀ settings criteria, ∃ key, Service.keyOf settings criteria v = .ok key ∧
      (SameData v w → Service.keyOf settings criteria w = .ok key)) ∧
    ∀ settings criteria other key, Service.keyOf settings criteria v = .ok key →
      Service.keyOf settings other w = .ok key → SameData v w ∨ Collide v w := by
  obtain ⟨x, own⟩ := data.exists_text
  obtain ⟨y, own'⟩ := data'.exists_text
  have same : x = y ↔ SameData v w := by
    constructor
    · rintro rfl
      obtain ⟨t, came, came'⟩ := tree_of_text own own'
      exact sameData_of_tree data data' came came'
    · intro same
      exact Except.ok.inj ((same.text_eq own).symm.trans own')
  refine ⟨⟨x, y, own, own', same⟩, fun settings criteria => ?_,
    fun settings criteria other key known known' => ?_⟩
  · refine ⟨_, by rw [Service.keyOf, digest_of_text own], fun equal => ?_⟩
    rw [Service.keyOf, digest_of_text own', same.2 equal]
  · have digests := (Service.keyOf_inj known known').2
    rw [digest_of_text own, digest_of_text own', Except.ok.injEq] at digests
    by_cases equal : x = y
    · exact .inl (same.1 equal)
    · exact .inr ⟨x, y, own, own', equal, digests⟩

/-- Members around a list of one map. -/
def sorted : Value :=
  .map (named [("a", .double .zero), ("b", .list [.map (named [("x", .null), ("y", .int 1)])])])

/-- The same data, the members of both maps the other way round. -/
def unsorted : Value :=
  .map (named [("b", .list [.map (named [("y", .int 1), ("x", .null)])]), ("a", .double .zero)])

/-- One as a whole number, a double, a truth value and a text, and the two zeros. -/
def lookalikes : List Value :=
  [.int 1, .double (.ofNat 1), .bool true, .text "1", .double .zero, .double (-.zero)]

theorem jsonData_lookalikes : ∀ v ∈ lookalikes, JsonData v := by
  simp only [lookalikes, List.forall_mem_cons]
  exact ⟨.int 1, .double (by decide +kernel), .bool true, .text "1", .double (by decide +kernel),
    .double (by decide +kernel), by simp⟩

theorem text_eq_iff_sameData_lookalikes :
    (JsonData sorted ∧ JsonData unsorted ∧ SameData sorted unsorted ∧ text sorted = text unsorted) ∧
    lookalikes.Pairwise fun v w => ¬SameData v w := by
  have inner : JsonData (.map (named [("x", .null), ("y", .int 1)])) :=
    .map (by decide) (by simp [JsonData.null, JsonData.int])
  have inner' : JsonData (.map (named [("y", .int 1), ("x", .null)])) :=
    .map (by decide) (by simp [JsonData.null, JsonData.int])
  have zero : JsonData (.double .zero) := .double rfl
  have data : JsonData sorted := .map (by decide) (by simp [JsonData.list, inner, zero])
  have data' : JsonData unsorted := .map (by decide) (by simp [JsonData.list, inner', zero])
  have came : tree sorted = .ok (.object [("a", .double .zero),
    ("b", .array [.object [("x", .null), ("y", .int 1)]])]) := by cbv
  have came' : tree unsorted = .ok (.object [("a", .double .zero),
    ("b", .array [.object [("x", .null), ("y", .int 1)]])]) := by cbv
  have equal : text sorted = text unsorted := by rw [text, text, came, came']
  refine ⟨⟨data, data', ?_, equal⟩, ?_⟩
  · obtain ⟨⟨x, y, own, own', same⟩, -⟩ := text_eq_iff_sameData data data'
    exact same.1 (Except.ok.inj (own.symm.trans (equal.trans own')))
  · have texts : (lookalikes.map text).Nodup := by decide +kernel
    refine (List.pairwise_map.1 texts).imp_of_mem fun {v w} member member' differ together => ?_
    obtain ⟨⟨x, y, own, own', same⟩, -⟩ := text_eq_iff_sameData (jsonData_lookalikes v member)
      (jsonData_lookalikes w member')
    rw [same.2 together] at own
    exact differ (own.trans own'.symm)

end Canonical
end Eligibility
