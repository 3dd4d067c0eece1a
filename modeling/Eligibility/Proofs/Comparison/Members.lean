/-
# Values equal themselves and are found among others

JSON data equals itself for a rule (`Value.looselySame_self`), and a list that holds it is found to.
The exception is an integer without a double.  It is not compared with anything but a boolean, not
even with itself; and items are tried in order, so a search is given up when it comes to one before
it has found its value (`Value.Reached`).  A search that is given up passes neither as found nor as
not found (`Operator.members_found`, `Operator.oversized_unequal`).
-/

import Eligibility.Proofs.Comparison.Ordered
import Eligibility.Proofs.Group.Unmet
import Eligibility.Proofs.Subject.JsonData

namespace Eligibility

open Canonical (JsonData)

/-! ### Data equals itself -/

theorem Quantity.reduced_ne_nan (negative : Bool) (coefficient : Nat) (exponent : Int) :
    reduced negative coefficient exponent ≠ .nan := by
  unfold reduced
  split
  · nofun
  · nofun

theorem Paired.refl {α : Type} {R : α → α → Prop} {as : List α} (each : ∀ a ∈ as, R a a) :
    Paired R as as :=
  ⟨fun a member => ⟨a, member, each a member⟩, fun a member => ⟨a, member, each a member⟩⟩

namespace Value

variable {v w : Value} {items : List Value}

theorem worthOf_reduced_ne_none (negative : Bool) (coefficient : Nat) (exponent : Int) :
    worthOf (.reduced negative coefficient exponent) ≠ none := by
  rw [worthOf, if_neg (Quantity.reduced_ne_nan _ _ _)]
  nofun

theorem same_self (data : JsonData v) : same v v = true := by
  rw [same_iff]
  induction data with
  | null => exact .atom nofun rfl
  | bool b => exact .atom (worthOf_reduced_ne_none _ _ _) rfl
  | int n => exact .atom (worthOf_reduced_ne_none _ _ _) rfl
  | @double x finite =>
    cases x with
    | finite => exact .atom (worthOf_reduced_ne_none _ _ _) rfl
    | _ => cases finite
  | text s => exact .atom nofun rfl
  | list _ ih => exact .list (List.forall₂_same.2 fun w member => same_iff.2 (ih w member))
  | @map members _ _ ih =>
    refine .map (Paired.refl fun m member => ?_)
    obtain ⟨named, among, rfl⟩ := List.mem_map.1 member
    exact ⟨same_iff.2 (.atom nofun rfl), same_iff.2 (ih named among)⟩

theorem exists_number?_iff (data : JsonData v) : (∃ read, v.number? = .ok read) ↔ ¬v.Oversized := by
  have quiet : v.isSignaling = false := isSignaling_of_same (same_self data)
  have faulty : (∃ fault, v.number? = .error fault) ↔ v.Oversized := by
    rw [← undoubled_iff, Undoubled, quiet]
    simp
  rw [← faulty]
  cases v.number? with
  | error fault => simp
  | ok read => simp

/-- **Data equals itself**, unless it is an integer without a double. -/
theorem looselySame_self (data : JsonData v) : LooselySame v v ↔ ¬v.Oversized := by
  rw [← exists_number?_iff data]
  constructor
  · intro equal
    cases equal with
    | bool x => exact ⟨_, rfl⟩
    | number left => exact ⟨_, left⟩
    | value _ _ left => exact ⟨_, left⟩
  · rintro ⟨read, came⟩
    by_cases truth : ∃ b, v = .bool b
    · obtain ⟨b, rfl⟩ := truth
      exact .bool b
    cases read with
    | none =>
      have plain : ∀ b, v ≠ .bool b := fun b same => truth ⟨b, same⟩
      exact .value plain plain came came (same_self data)
    | some x =>
      refine .number came came ?_
      cases x with
      | nan => cases isFinite_of_number? came
      | _ => simp [Double.eq, Double.rank]

/-! ### Which data is compared -/

/-- The comparison of two values comes to an answer: a boolean is involved, or both may have a
number. -/
def Comparable (v w : Value) : Prop :=
  (∃ b, v = .bool b) ∨ (∃ b, w = .bool b) ∨ ¬v.Oversized ∧ ¬w.Oversized

theorem Comparable.symm (compared : Comparable v w) : Comparable w v := by
  rcases compared with truth | truth | ⟨small, small'⟩
  · exact .inr (.inl truth)
  · exact .inl truth
  · exact .inr (.inr ⟨small', small⟩)

theorem exists_looselyEqual_iff (data : JsonData v) (data' : JsonData w) :
    (∃ answer, looselyEqual v w = .ok answer) ↔ Comparable v w := by
  unfold looselyEqual
  split
  · exact iff_of_true ⟨_, rfl⟩ (.inl ⟨_, rfl⟩)
  · exact iff_of_true ⟨_, rfl⟩ (.inl ⟨_, rfl⟩)
  · exact iff_of_true ⟨_, rfl⟩ (.inr (.inl ⟨_, rfl⟩))
  · next plain plain' _ =>
    have numbers : Comparable v w ↔ ¬v.Oversized ∧ ¬w.Oversized := by
      refine ⟨?_, fun small => .inr (.inr small)⟩
      rintro (⟨b, same⟩ | ⟨b, same⟩ | small)
      · exact (plain b same).elim
      · exact (plain' b same).elim
      · exact small
    have quiet : v.signals w = false :=
      signals_eq_false (quiet_of_same (same_self data)) (quiet_of_same (same_self data'))
    rw [numbers, ← exists_number?_iff data, ← exists_number?_iff data', quiet]
    constructor
    · rintro ⟨answer, came⟩
      obtain ⟨left, readLeft, came⟩ := bind_eq_ok.1 came
      obtain ⟨right, readRight, -⟩ := bind_eq_ok.1 came
      exact ⟨⟨left, readLeft⟩, right, readRight⟩
    · rintro ⟨⟨left, readLeft⟩, right, readRight⟩
      rw [readLeft, readRight]
      cases left with
      | none => exact ⟨_, rfl⟩
      | some x =>
        cases right with
        | none => exact ⟨_, rfl⟩
        | some y => exact ⟨_, rfl⟩

/-! ### Searches -/

/-- Whether an item passes a test, where items are tried in order up to the first that does. -/
def search (test : Value → Except NumberFault Bool) : List Value → Except NumberFault Bool
  | [] => .ok false
  | item :: rest => do if ← test item then return true else search test rest

section Search

variable {test : Value → Except NumberFault Bool} {before after : List Value}

theorem equalsAny_eq_search (v : Value) (items : List Value) :
    v.equalsAny items = search (looselyEqual v) items := by
  induction items with
  | nil => rfl
  | cons item rest ih => rw [equalsAny, search, ih]

theorem anyEqual_eq_search (v : Value) (items : List Value) :
    Comparison.contains.anyEqual v items = search (looselyEqual · v) items := by
  induction items with
  | nil => rfl
  | cons item rest ih => rw [Comparison.contains.anyEqual, search, ih]

/-- A search that finds something has had answers up to there. -/
theorem split_of_search (found : search test items = .ok true) :
    ∃ before w after, items = before ++ w :: after ∧ (∀ u ∈ before, test u = .ok false) ∧
      test w = .ok true := by
  induction items with
  | nil => cases found
  | cons item rest ih =>
    obtain ⟨passed, answer, found⟩ := bind_eq_ok.1 found
    cases passed with
    | true => exact ⟨[], item, rest, rfl, nofun, answer⟩
    | false =>
      obtain ⟨before, w, after, rfl, failed, passes⟩ := ih found
      exact ⟨item :: before, w, after, rfl, List.forall_mem_cons.2 ⟨answer, failed⟩, passes⟩

/-- A search that has answers up to an item that passes finds something. -/
theorem search_of_split (answered : ∀ u ∈ before, ∃ answer, test u = .ok answer)
    (passes : test w = .ok true) : search test (before ++ w :: after) = .ok true := by
  induction before with
  | nil =>
    rw [List.nil_append, search, passes]
    rfl
  | cons item rest ih =>
    obtain ⟨⟨answer, came⟩, later⟩ := List.forall_mem_cons.1 answered
    rw [List.cons_append, search, came]
    cases answer with
    | true => rfl
    | false => exact ih later

/-- A search that finds nothing has tried everything. -/
theorem failed_of_search (none : search test items = .ok false) :
    ∀ u ∈ items, test u = .ok false := by
  induction items with
  | nil => nofun
  | cons item rest ih =>
    obtain ⟨passed, answer, none⟩ := bind_eq_ok.1 none
    cases passed with
    | true => cases none
    | false => exact List.forall_mem_cons.2 ⟨answer, ih none⟩

/-- The test compares items with a value, on one side or the other. -/
structure Compares (v : Value) (test : Value → Except NumberFault Bool) : Prop where
  equal : ∀ {w}, test w = .ok true ↔ LooselySame v w
  answered : ∀ {w}, JsonData w → ((∃ answer, test w = .ok answer) ↔ Comparable v w)

theorem compares_right (data : JsonData v) : Compares v (looselyEqual v) where
  equal := looselyEqual_eq_ok_true
  answered := exists_looselyEqual_iff data

theorem compares_left (data : JsonData v) : Compares v (looselyEqual · v) where
  equal := looselyEqual_eq_ok_true.trans ⟨LooselySame.symm, LooselySame.symm⟩
  answered data' := (exists_looselyEqual_iff data' data).trans ⟨Comparable.symm, Comparable.symm⟩

/-- A search for a value gets to it: no integer without a double is in the way, neither the value
itself nor an item before the first that equals it.  Booleans are told from numbers without
comparing them, so nothing is in the way of one. -/
def Reached (v : Value) (items : List Value) : Prop :=
  ¬v.Oversized ∧ ((∃ b, v = .bool b) ∨ ∃ before w after, items = before ++ w :: after ∧
    (∀ u ∈ before, ¬u.Oversized) ∧ LooselySame v w)

theorem not_oversized_bool (b : Bool) : ¬(bool b).Oversized := by
  rintro ⟨n, ⟨⟩, -⟩

theorem Comparable.not_oversized (compared : Comparable v w) (plain : ¬∃ b, v = .bool b) :
    ¬v.Oversized ∧ ¬w.Oversized ∨ ∃ b, w = .bool b := by
  rcases compared with truth | truth | small
  · exact absurd truth plain
  · exact .inr truth
  · exact .inl small

theorem not_oversized_of_looselySame (equal : LooselySame v w) : ¬v.Oversized := by
  intro large
  obtain ⟨fault, failed⟩ := undoubled_iff.1 (.inl large)
  cases equal with
  | bool => cases failed
  | number left => cases left.symm.trans failed
  | value _ _ left => cases left.symm.trans failed

/-- What is there is reached when nothing is in the way. -/
theorem reached_of_mem (data : JsonData v) (member : v ∈ items)
    (small : ∀ w ∈ items, ¬w.Oversized) : Reached v items := by
  obtain ⟨before, after, rfl⟩ := List.append_of_mem member
  refine ⟨small v member, .inr ⟨before, v, after, rfl, fun u among => ?_, ?_⟩⟩
  · exact small u (List.mem_append_left _ among)
  · exact (looselySame_self data).2 (small v member)

/-- Data is not found to differ from itself. -/
theorem Compares.self_ne_false (compares : Compares v test) (data : JsonData v) :
    test v ≠ .ok false := by
  intro failed
  have small : ¬v.Oversized := by
    rcases (compares.answered data).1 ⟨_, failed⟩ with ⟨b, rfl⟩ | ⟨b, rfl⟩ | ⟨small, -⟩
    · exact not_oversized_bool b
    · exact not_oversized_bool b
    · exact small
  cases failed.symm.trans (compares.equal.2 ((looselySame_self data).2 small))

/-- A search does not come to the answer that data which is there is not. -/
theorem search_ne_ok_false (compares : Compares v test) (data : JsonData v) (member : v ∈ items) :
    search test items ≠ .ok false :=
  fun none => compares.self_ne_false data (failed_of_search none v member)

/-- **Data that is there is found when it is reached.** -/
theorem search_eq_ok_true (compares : Compares v test) (data : JsonData v)
    (all : ∀ w ∈ items, JsonData w) (member : v ∈ items) :
    search test items = .ok true ↔ Reached v items := by
  constructor
  · intro found
    obtain ⟨before, w, after, rfl, failed, passes⟩ := split_of_search found
    have equal := compares.equal.1 passes
    refine ⟨not_oversized_of_looselySame equal, ?_⟩
    by_cases truth : ∃ b, v = .bool b
    · exact .inl truth
    refine .inr ⟨before, w, after, rfl, fun u among large => ?_, equal⟩
    have compared := (compares.answered (all u (by simp [among]))).1 ⟨_, failed u among⟩
    rcases compared.not_oversized truth with small | ⟨b, rfl⟩
    · exact small.2 large
    · exact not_oversized_bool b large
  · rintro ⟨small, truth | ⟨before, w, after, rfl, clear, equal⟩⟩
    · obtain ⟨before, after, rfl⟩ := List.append_of_mem member
      have equal := compares.equal.2 ((looselySame_self data).2 small)
      refine search_of_split (fun u among => ?_) equal
      exact (compares.answered (all u (by simp [among]))).2 (.inl truth)
    · refine search_of_split (fun u among => ?_) (compares.equal.2 equal)
      exact (compares.answered (all u (by simp [among]))).2 (.inr (.inr ⟨small, clear u among⟩))

end Search

theorem present_of_data (data : JsonData v) : v.present = v := by
  cases data with
  | _ => rfl

end Value

/-! ### The operators -/

namespace Operator

open Value (LooselySame Reached search)

theorem map_not_mapError {ε φ : Type} {f : ε → φ} {x : Except ε Bool} :
    (x.mapError f).map not = .ok true ↔ x = .ok false := by
  cases x with
  | error fault => simp [Except.mapError, Except.map]
  | ok passed => simp [Except.mapError, Except.map]

variable {v given : Value} {items : List Value}

theorem outcome_eq_self (data : JsonData v) :
    eq.outcome v v = (Value.looselyEqual v v).mapError .number := by
  have carried : eq.outcome v v =
      (Comparison.ofNumber (Value.looselyEqual v.present v)).result := rfl
  rw [carried, Value.present_of_data data, Comparison.result_ofNumber]

theorem outcome_among (collected : given.collection? = some items) (some : items ≠ [])
    (there : v.present.isNull = false) :
    among.outcome v given = (search (Value.looselyEqual v.present) items).mapError .number := by
  have carried : among.outcome v given = (Comparison.among v.present given).result := rfl
  rw [carried, ← Value.equalsAny_eq_search]
  obtain ⟨item, rest, rfl⟩ := List.exists_cons_of_ne_nil some
  unfold Comparison.among Comparison.members
  simp only [collected, pure_bind, there, Bool.false_eq_true, if_false,
    Comparison.result_ofNumber]

theorem outcome_notAmong (collected : given.collection? = some items) (some : items ≠ [])
    (there : v.present.isNull = false) :
    notAmong.outcome v given = (among.outcome v given).map not := by
  rw [outcome_among collected some there, ← Value.equalsAny_eq_search]
  have carried : notAmong.outcome v given = (Comparison.notAmong v.present given).result := rfl
  obtain ⟨item, rest, rfl⟩ := List.exists_cons_of_ne_nil some
  rw [carried]
  unfold Comparison.notAmong Comparison.members
  simp only [collected, pure_bind, there, Bool.false_eq_true, if_false, Comparison.result_bind,
    Comparison.result_ofNumber]
  cases v.present.equalsAny (item :: rest) with
  | error fault => rfl
  | ok passed => rfl

theorem outcome_contains (collected : given.collection? = some items) (there : v.isNull = false) :
    contains.outcome given v = (search (Value.looselyEqual · v) items).mapError .number := by
  have carried : contains.outcome given v = (Comparison.contains given.present v).result := rfl
  have same : given.present = given := by
    cases given with
    | missing => cases collected
    | _ => rfl
  have filled : given.isNull = false := by
    cases given with
    | null => cases collected
    | _ => rfl
  rw [carried, same, ← Value.anyEqual_eq_search]
  unfold Comparison.contains
  simp only [collected, filled, there, Bool.or_self, Bool.false_eq_true, if_false,
    Comparison.result_ofNumber]

/-- **Data equals itself and is found where it is**, as far as no integer without a double is in the
way.  Whatever is in the way, data is not found to differ from itself, nor to be missing where it
is. -/
theorem members_found (data : JsonData v) :
    (eq.Passes v v ↔ ¬v.Oversized) ∧ ¬neq.Passes v v ∧
    ∀ given items, given.collection? = some items → (∀ w ∈ items, JsonData w) → v ∈ items →
      v ≠ .null →
        (among.Passes v given ↔ Reached v items) ∧ ¬notAmong.Passes v given ∧
        (contains.Passes given v ↔ Reached v items) ∧
        ((∀ w ∈ items, ¬w.Oversized) → Reached v items) := by
  have right := Value.compares_right data
  have left := Value.compares_left data
  have same := Value.present_of_data data
  refine ⟨?_, fun differs => ?_, fun given items collected all member filled => ?_⟩
  · rw [Passes, compare_eq_iff, same, Value.looselySame_self data]
  · rw [Passes, passes_iff, outcome_neq, outcome_eq_self data, map_not_mapError] at differs
    exact right.self_ne_false data differs
  · have some : items ≠ [] := List.ne_nil_of_mem member
    have there : v.isNull = false := Bool.eq_false_iff.2 fun null => filled (Value.eq_null null)
    have there' : v.present.isNull = false := same.symm ▸ there
    refine ⟨?_, fun missing => ?_, ?_, Value.reached_of_mem data member⟩
    · rw [Passes, passes_iff, outcome_among collected some there', same, mapError_eq_ok]
      exact Value.search_eq_ok_true right data all member
    · rw [Passes, passes_iff, outcome_notAmong collected some there',
        outcome_among collected some there', same, map_not_mapError] at missing
      exact Value.search_ne_ok_false right data member missing
    · rw [Passes, passes_iff, outcome_contains collected there, mapError_eq_ok]
      exact Value.search_eq_ok_true left data all member

/-- A list with an oversized integer in it is compared like any other, and it is found before such
an integer. -/
theorem members_found_nested :
    let wealth : Value := .int (10 ^ 400)
    let nested : Value := .list [.null, wealth]
    JsonData nested ∧ ¬nested.Oversized ∧ eq.Passes nested nested ∧ ¬neq.Passes nested nested ∧
      among.Passes nested (.list [.bool true, nested, wealth]) ∧
      ¬notAmong.Passes nested (.list [.bool true, nested, wealth]) ∧
      contains.Passes (.tuple [.bool true, nested, wealth]) nested := by
  intro wealth nested
  have whole : JsonData wealth := .int _
  have data : JsonData nested := .list (by simp [JsonData.null, whole])
  have small : ¬nested.Oversized := by
    rintro ⟨n, same, -⟩
    exact Value.noConfusion same
  have all : ∀ w ∈ [.bool true, nested, wealth], JsonData w := by
    simp [JsonData.bool, data, whole]
  have reached : nested.Reached [.bool true, nested, wealth] := by
    refine ⟨small, .inr ⟨[.bool true], nested, [wealth], rfl, ?_, ?_⟩⟩
    · simpa using Value.not_oversized_bool true
    · exact (Value.looselySame_self data).2 small
  obtain ⟨itself, alike, searched⟩ := members_found data
  obtain ⟨found, missing, -⟩ := searched (.list _) _ rfl all (by simp) (by simp [nested])
  obtain ⟨-, -, contained, -⟩ := searched (.tuple _) _ rfl all (by simp) (by simp [nested])
  exact ⟨data, small, itself.2 small, alike, found.2 reached, missing, contained.2 reached⟩

/-- **An oversized integer does not equal itself**, and it hides what stands behind it in a list. -/
theorem oversized_unequal :
    (eq.compare (.int (10 ^ 400)) (.int (10 ^ 400))).value = false ∧
      (among.compare (.int 5) (.list [.int (10 ^ 400), .int 5])).value = false ∧
      (contains.compare (.list [.int (10 ^ 400), .int 5]) (.int 5)).value = false := by
  decide +kernel

end Operator
end Eligibility
