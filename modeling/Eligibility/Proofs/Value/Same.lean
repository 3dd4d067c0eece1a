/-
# Equality of values is symmetric and transitive

Values that are no collections are equal when one piece of data, their `Atom`, is the same for
both; a NaN has none.  Lists and tuples are equal item by item, sets and maps when every item on
either side has a partner on the other (`same_iff`).  Both ways of comparing collections pass
symmetry and transitivity on from the items, so the induction is on how deep values nest
(`same_symm`, `same_trans`).

What equals anything holds no signaling NaN, so equal values are compared without coming upon one
(`signals_eq_false`).
-/

import Eligibility.Proofs.Value.Quoted
import Eligibility.Value.Equal

namespace Eligibility

/-! ### Partners -/

/-- Every item on either side has a partner on the other. -/
def Paired {α β : Type} (R : α → β → Prop) (as : List α) (bs : List β) : Prop :=
  (∀ a ∈ as, ∃ b ∈ bs, R a b) ∧ ∀ b ∈ bs, ∃ a ∈ as, R a b

namespace Paired

variable {α : Type} {R : α → α → Prop} {as bs cs : List α}

theorem symm (paired : Paired R as bs) (turned : ∀ a ∈ as, ∀ b ∈ bs, R a b → R b a) :
    Paired R bs as := by
  constructor
  · intro b member
    obtain ⟨a, among, related⟩ := paired.2 b member
    exact ⟨a, among, turned a among b member related⟩
  · intro a member
    obtain ⟨b, among, related⟩ := paired.1 a member
    exact ⟨b, among, turned a member b among related⟩

theorem trans (first : Paired R as bs) (second : Paired R bs cs)
    (chained : ∀ a ∈ as, ∀ b ∈ bs, ∀ c ∈ cs, R a b → R b c → R a c) : Paired R as cs := by
  constructor
  · intro a member
    obtain ⟨b, between, related⟩ := first.1 a member
    obtain ⟨c, among, related'⟩ := second.1 b between
    exact ⟨c, among, chained a member b between c among related related'⟩
  · intro c member
    obtain ⟨b, between, related'⟩ := second.2 c member
    obtain ⟨a, among, related⟩ := first.2 b between
    exact ⟨a, among, chained a among b between c member related related'⟩

end Paired

namespace Value

/-! ### Values that are no collections -/

/-- What decides the equality of a value that is no collection. -/
inductive Atom where
  | null
  | missing
  | number (worth : Quantity)
  | text (s : String)
  | bytes (data : List UInt8)
  | date (d : Date)
  | moment (place : Moment ⊕ Int)
  | clock (place : Clock ⊕ Int)

/-- The place of a moment in universal time; without an offset it has none but itself. -/
def placeOf (m : Moment) : Moment ⊕ Int :=
  if m.offset.isSome then .inr m.toInstant.position else .inl m

/-- The distance of a clock time from universal midnight; without an offset it stands for itself. -/
def distanceOf (c : Clock) : Option Offset → Clock ⊕ Int
  | some o => .inr (c.micros - o.micros)
  | none => .inl c

/-- A worth decides the equality of numbers, unless it is that of a NaN. -/
def worthOf (q : Quantity) : Option Atom := if q = .nan then none else some (.number q)

/-- The data that decides the equality of a value.  A collection has none, and neither has a NaN. -/
def atom? : Value → Option Atom
  | null => some .null
  | missing => some .missing
  | bool b => worthOf (.ofInt (if b then 1 else 0))
  | int n => worthOf (.ofInt n)
  | double x => worthOf (.ofDouble x)
  | decimal d => worthOf (.ofDecimal d)
  | text s => some (.text s)
  | bytes data => some (.bytes data)
  | date d => some (.date d)
  | moment m => some (.moment (placeOf m))
  | clock c offset => some (.clock (distanceOf c offset))
  | _ => none

theorem sameMoment_iff {m n : Moment} : sameMoment m n = true ↔ placeOf m = placeOf n := by
  unfold sameMoment placeOf
  cases m.offset <;> cases n.offset <;> simp

theorem sameClock_iff {c d : Clock} {o p : Option Offset} :
    sameClock c d o p = true ↔ distanceOf c o = distanceOf d p := by
  cases o <;> cases p <;> simp [sameClock, distanceOf]

theorem worthOf_eq_some {q : Quantity} {k : Atom} :
    worthOf q = some k ↔ q ≠ .nan ∧ .number q = k := by
  unfold worthOf
  split
  · next nan => simp [nan]
  · next number => simp [number]

theorem some_eq_worthOf {q : Quantity} {k : Atom} :
    some k = worthOf q ↔ q ≠ .nan ∧ .number q = k := by
  rw [eq_comm, worthOf_eq_some]

theorem same_iff_worthOf {q r : Quantity} :
    q.same r = true ↔ worthOf q ≠ none ∧ worthOf q = worthOf r := by
  rw [Quantity.same_iff]
  unfold worthOf
  split
  · next nan => simp [nan]
  · next number =>
    split
    · next nan => simp [nan, number]
    · simp [number]

/-- **Atoms decide** the equality of values that are no collections. -/
theorem sameAtom_iff {a b : Value} :
    sameAtom a b = true ↔ a.atom? ≠ none ∧ a.atom? = b.atom? := by
  -- values of different kinds have different atoms, all numbers being of one kind
  cases a <;> cases b <;>
    simp [sameAtom, atom?, quantity?, same_iff_worthOf, sameMoment_iff, sameClock_iff,
      worthOf_eq_some, some_eq_worthOf]

/-! ### Collections -/

theorem sameItems_iff {xs ys : List Value} :
    sameItems xs ys = true ↔ List.Forall₂ (same · · = true) xs ys := by
  induction xs generalizing ys with
  | nil =>
    cases ys with
    | nil => simp [sameItems]
    | cons y ys => simp [sameItems]
  | cons x xs ih =>
    cases ys with
    | nil => simp [sameItems]
    | cons y ys => simp [sameItems, ih]

theorem within_iff {xs ys : List Value} :
    within xs ys = true ↔ ∀ x ∈ xs, ∃ y ∈ ys, same x y = true := by
  induction xs with
  | nil => simp [within]
  | cons x xs ih => simp [within, ih]

theorem anySame_iff {xs : List Value} {y : Value} :
    anySame xs y = true ↔ ∃ x ∈ xs, same x y = true := by
  induction xs with
  | nil => simp [anySame]
  | cons x xs ih => simp [anySame, ih]

theorem paired_iff {xs ys : List Value} :
    (within xs ys && covers xs ys) = true ↔ Paired (same · · = true) xs ys := by
  simp [covers, within_iff, anySame_iff, Paired]

/-- Two members are equal, key and value. -/
def SameMember (m n : Value × Value) : Prop := same m.1 n.1 = true ∧ same m.2 n.2 = true

theorem membersWithin_iff {ms ns : List (Value × Value)} :
    membersWithin ms ns = true ↔ ∀ m ∈ ms, ∃ n ∈ ns, SameMember m n := by
  induction ms with
  | nil => simp [membersWithin]
  | cons m ms ih =>
    obtain ⟨k, v⟩ := m
    simp only [membersWithin, Bool.and_eq_true, List.any_eq_true, ih, List.forall_mem_cons,
      SameMember]

theorem anyMember_iff {ms : List (Value × Value)} {n : Value × Value} :
    anyMember ms n = true ↔ ∃ m ∈ ms, SameMember m n := by
  induction ms with
  | nil => simp [anyMember]
  | cons m ms ih =>
    obtain ⟨k, v⟩ := m
    simp only [anyMember, Bool.or_eq_true, Bool.and_eq_true, ih, List.exists_mem_cons_iff,
      SameMember]

theorem pairedMembers_iff {ms ns : List (Value × Value)} :
    (membersWithin ms ns && membersCover ms ns) = true ↔ Paired SameMember ms ns := by
  simp [membersCover, membersWithin_iff, anyMember_iff, Paired]

/-- The items of a set of either kind. -/
def asSet? : Value → Option (List Value)
  | set items => some items
  | frozenSet items => some items
  | _ => none

theorem asSet?_eq_some {v : Value} {items : List Value} :
    v.asSet? = some items ↔ v = set items ∨ v = frozenSet items := by
  cases v <;> simp [asSet?]

theorem atom?_of_asSet? {v : Value} {items : List Value} (found : v.asSet? = some items) :
    v.atom? = none := by
  rcases asSet?_eq_some.1 found with rfl | rfl
  all_goals rfl

theorem inner_of_asSet? {v : Value} {items : List Value} (found : v.asSet? = some items) :
    v.inner = items := by
  rcases asSet?_eq_some.1 found with rfl | rfl
  all_goals rfl

/-- How two values come to be equal. -/
inductive Alike : Value → Value → Prop
  | atom {a b : Value} (decides : a.atom? ≠ none) (same : a.atom? = b.atom?) : Alike a b
  | list {xs ys : List Value} (items : List.Forall₂ (same · · = true) xs ys) :
    Alike (list xs) (list ys)
  | tuple {xs ys : List Value} (items : List.Forall₂ (same · · = true) xs ys) :
    Alike (tuple xs) (tuple ys)
  | set {a b : Value} {xs ys : List Value} (left : a.asSet? = some xs) (right : b.asSet? = some ys)
    (items : Paired (same · · = true) xs ys) : Alike a b
  | map {ms ns : List (Value × Value)} (members : Paired SameMember ms ns) :
    Alike (map ms) (map ns)

theorem same_of_atom? {a b : Value} (decides : a.atom? ≠ none) : same a b = sameAtom a b := by
  cases a with
  | list | tuple | set | frozenSet | map => exact absurd rfl decides
  | _ => rw [same.eq_def]

/-- **What equality of two values means.** -/
theorem same_iff {a b : Value} : same a b = true ↔ Alike a b := by
  constructor
  · intro equal
    unfold same at equal
    split at equal
    · exact .list (sameItems_iff.1 equal)
    · exact .tuple (sameItems_iff.1 equal)
    · exact .set rfl rfl (paired_iff.1 equal)
    · exact .set rfl rfl (paired_iff.1 equal)
    · exact .set rfl rfl (paired_iff.1 equal)
    · exact .set rfl rfl (paired_iff.1 equal)
    · exact .map (pairedMembers_iff.1 equal)
    · cases equal
    · cases equal
    · cases equal
    · cases equal
    · cases equal
    · obtain ⟨decides, alike⟩ := sameAtom_iff.1 equal
      exact .atom decides alike
  · intro alike
    cases alike with
    | atom decides alike =>
      rw [same_of_atom? decides, sameAtom_iff]
      exact ⟨decides, alike⟩
    | list items =>
      rw [same, sameItems_iff]
      exact items
    | tuple items =>
      rw [same, sameItems_iff]
      exact items
    | set left right items =>
      rw [← paired_iff] at items
      rcases asSet?_eq_some.1 left with rfl | rfl
      all_goals
        rcases asSet?_eq_some.1 right with rfl | rfl
        all_goals
          rw [same]
          exact items
    | map members =>
      rw [same, pairedMembers_iff]
      exact members

/-! ### Symmetry and transitivity -/

theorem forall₂_symm {R : Value → Value → Prop} {xs ys : List Value} (items : List.Forall₂ R xs ys)
    (turned : ∀ x ∈ xs, ∀ y, R x y → R y x) : List.Forall₂ R ys xs := by
  induction items with
  | nil => exact .nil
  | cons related _ ih =>
    obtain ⟨first, rest⟩ := List.forall_mem_cons.1 turned
    exact .cons (first _ related) (ih rest)

theorem forall₂_trans {R : Value → Value → Prop} {xs ys zs : List Value}
    (first : List.Forall₂ R xs ys) (second : List.Forall₂ R ys zs)
    (chained : ∀ x ∈ xs, ∀ y z, R x y → R y z → R x z) : List.Forall₂ R xs zs := by
  induction first generalizing zs with
  | nil =>
    cases second
    exact .nil
  | cons related _ ih =>
    cases second with
    | cons related' others =>
      obtain ⟨now, later⟩ := List.forall_mem_cons.1 chained
      exact .cons (now _ _ related related') (ih others later)

theorem same_symm {a b : Value} (equal : same a b = true) : same b a = true := by
  induction a using induction_inner generalizing b with
  | step a ih =>
  cases same_iff.1 equal with
  | atom decides alike => exact same_iff.2 (.atom (alike ▸ decides) alike.symm)
  | list items => exact same_iff.2 (.list (forall₂_symm items fun x member _ => ih x member))
  | tuple items => exact same_iff.2 (.tuple (forall₂_symm items fun x member _ => ih x member))
  | set left right items =>
    rw [inner_of_asSet? left] at ih
    exact same_iff.2 (.set right left (items.symm fun x member _ _ => ih x member))
  | map members =>
    exact same_iff.2 (.map (members.symm fun m member _ _ equal =>
      ⟨ih m.1 (key_mem_inner member) equal.1, ih m.2 (value_mem_inner member) equal.2⟩))

theorem same_trans {a b c : Value} (first : same a b = true) (second : same b c = true) :
    same a c = true := by
  induction a using induction_inner generalizing b c with
  | step a ih =>
  cases same_iff.1 first with
  | atom decides alike =>
    have decides' : b.atom? ≠ none := alike ▸ decides
    obtain ⟨-, alike'⟩ := sameAtom_iff.1 (same_of_atom? decides' ▸ second)
    exact same_iff.2 (.atom decides (alike.trans alike'))
  | list items =>
    cases same_iff.1 second with
    | atom decides => exact absurd rfl decides
    | list items' =>
      have chained := forall₂_trans items items' fun x member _ _ => ih x member
      exact same_iff.2 (.list chained)
    | set left => cases left
  | tuple items =>
    cases same_iff.1 second with
    | atom decides => exact absurd rfl decides
    | tuple items' =>
      have chained := forall₂_trans items items' fun x member _ _ => ih x member
      exact same_iff.2 (.tuple chained)
    | set left => cases left
  | set left right items =>
    cases same_iff.1 second with
    | atom decides => exact absurd (atom?_of_asSet? right) decides
    | set left' right' items' =>
      cases right.symm.trans left'
      rw [inner_of_asSet? left] at ih
      have chained := items.trans items' fun x member _ _ _ _ => ih x member
      exact same_iff.2 (.set left right' chained)
    | list | tuple | map => cases right
  | map members =>
    cases same_iff.1 second with
    | atom decides => exact absurd rfl decides
    | map members' =>
      have chained := members.trans members' fun m member _ _ _ _ equal equal' =>
        ⟨ih m.1 (key_mem_inner member) equal.1 equal'.1,
          ih m.2 (value_mem_inner member) equal.2 equal'.2⟩
      exact same_iff.2 (.map chained)
    | set left => cases left

/-! ### Signaling NaNs -/

/-- A value is quiet when no signaling NaN stands in it, at any depth. -/
inductive Quiet : Value → Prop
  | intro {v : Value} (self : v.isSignaling = false) (inside : ∀ w ∈ v.inner, Quiet w) : Quiet v

theorem inner_of_atom? {v : Value} (decides : v.atom? ≠ none) : v.inner = [] := by
  cases v with
  | list | tuple | set | frozenSet | map => exact absurd rfl decides
  | _ => rfl

theorem partner_of_forall₂ {xs ys : List Value} (items : List.Forall₂ (same · · = true) xs ys) :
    ∀ x ∈ xs, ∃ y, same x y = true :=
  ((List.forall₂_and_left xs ys).1 (items.imp fun _ y equal => ⟨⟨y, equal⟩, equal⟩)).1

/-- What stands in a value equals something when the value does. -/
theorem partner_of_same {a b : Value} (equal : same a b = true) :
    ∀ w ∈ a.inner, ∃ u, same w u = true := by
  cases same_iff.1 equal with
  | atom decides => simp [inner_of_atom? decides]
  | list items | tuple items => exact partner_of_forall₂ items
  | set left _ items =>
    rw [inner_of_asSet? left]
    intro x member
    obtain ⟨y, _, equal⟩ := items.1 x member
    exact ⟨y, equal⟩
  | map members =>
    intro w member
    obtain ⟨m, among, part⟩ := List.mem_flatMap.1 member
    obtain ⟨n, _, keys, values⟩ := members.1 m among
    obtain rfl | rfl : w = m.1 ∨ w = m.2 := by simpa using part
    · exact ⟨n.1, keys⟩
    · exact ⟨n.2, values⟩

theorem isSignaling_of_same {a b : Value} (equal : same a b = true) : a.isSignaling = false := by
  cases a with
  | decimal d =>
    cases same_iff.1 equal with
    | atom decides =>
      cases d with
      | nan => exact absurd rfl decides
      | _ => rfl
    | set left => cases left
  | _ => rfl

/-- **What equals anything is quiet.** -/
theorem quiet_of_same {a b : Value} (equal : same a b = true) : Quiet a := by
  induction a using induction_inner generalizing b with
  | step a ih =>
  refine .intro (isSignaling_of_same equal) fun w member => ?_
  obtain ⟨u, equal⟩ := partner_of_same equal w member
  exact ih w member equal

theorem signalsItems_eq_false {xs ys : List Value}
    (each : ∀ x ∈ xs, ∀ y ∈ ys, signals x y = false) : signalsItems xs ys = false := by
  induction xs generalizing ys with
  | nil => rw [signalsItems]; nofun
  | cons x xs ih =>
    cases ys with
    | nil => rw [signalsItems]; nofun
    | cons y ys =>
      have later : signalsItems xs ys = false := ih fun x member y member' =>
        each x (List.mem_cons_of_mem _ member) y (List.mem_cons_of_mem _ member')
      rw [signalsItems, each x (by simp) y (by simp), later, Bool.and_false, Bool.or_false]

theorem signalsMembers_eq_false {ms ns : List (Value × Value)}
    (each : ∀ m ∈ ms, ∀ n ∈ ns, signals m.2 n.2 = false) : signalsMembers ms ns = false := by
  induction ms with
  | nil => rw [signalsMembers]
  | cons m ms ih =>
    obtain ⟨k, v⟩ := m
    have later := ih fun m member => each m (List.mem_cons_of_mem _ member)
    rw [signalsMembers]
    split
    · next n found =>
      rw [each (k, v) (by simp) n (List.mem_of_find?_eq_some found), later, Bool.and_false,
        Bool.or_false]
    · rfl

/-- **Quiet values are compared without coming upon a signaling NaN.** -/
theorem signals_eq_false {a b : Value} (left : Quiet a) (right : Quiet b) :
    signals a b = false := by
  induction a using induction_inner generalizing b with
  | step a ih =>
  obtain ⟨self, inside⟩ := left
  obtain ⟨self', inside'⟩ := right
  have each : ∀ x ∈ a.inner, ∀ y ∈ b.inner, signals x y = false := fun x member y member' =>
    ih x member (inside x member) (inside' y member')
  unfold signals
  split
  · next xs ys =>
    have items : signalsItems xs ys = false := signalsItems_eq_false each
    rw [items, Bool.and_false]
  · exact signalsItems_eq_false each
  · have values := signalsMembers_eq_false fun m member n member' =>
      each m.2 (value_mem_inner member) n.2 (value_mem_inner member')
    rw [values, Bool.and_false]
  · rw [signalsAtom, self, self', Bool.or_self, Bool.and_false]

/-- Equal values are compared without coming upon a signaling NaN. -/
theorem signals_of_same {a b : Value} (equal : same a b = true) : signals a b = false :=
  signals_eq_false (quiet_of_same equal) (quiet_of_same (same_symm equal))

end Value
end Eligibility
