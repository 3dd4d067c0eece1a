/-
# Things told apart inside a text

Inside a larger text, a thing is followed by a comma, a colon or a closing bracket, or by nothing.
Two things are told apart when their texts with such followers differ (`Told`).  Things between
commas are told apart, item by item, when each item is (`listed_inj`).
-/

import Eligibility.Proofs.Text.Digits
import Eligibility.Value.Written

namespace Eligibility
namespace Text

/-- Whether a character closes a bracket. -/
def Closes (c : Char) : Prop := c = ')' ∨ c = ']' ∨ c = '\x7d'

instance (c : Char) : Decidable (Closes c) := inferInstanceAs (Decidable (_ ∨ _))

/-- Nothing follows, or what follows a thing inside a larger text. -/
def EndsItem (cs : List Char) : Prop := ∀ c ∈ cs.head?, c = ',' ∨ c = ':' ∨ Closes c

theorem endsItem_comma (cs : List Char) : EndsItem (',' :: cs) := by
  intro c first
  obtain rfl := Option.some.inj first
  exact .inl rfl

theorem endsItem_colon (cs : List Char) : EndsItem (':' :: cs) := by
  intro c first
  obtain rfl := Option.some.inj first
  exact .inr (.inl rfl)

theorem Closes.endsItem {c : Char} (closes : Closes c) (cs : List Char) : EndsItem (c :: cs) := by
  intro d first
  obtain rfl := Option.some.inj first
  exact .inr (.inr closes)

theorem Closes.ne_comma {c : Char} (closes : Closes c) : c ≠ ',' := by
  rintro rfl
  obtain eq | eq | eq := closes
  · cases eq
  · cases eq
  · cases eq

theorem EndsItem.noDigit {cs : List Char} (stop : EndsItem cs) : NoDigit cs := by
  intro c first
  obtain rfl | rfl | rfl | rfl | rfl := stop c first
  · rfl
  · rfl
  · rfl
  · rfl
  · rfl

variable {α : Type} {text : α → List Char}

/-- The texts tell two things apart, whatever follows them. -/
def Told (text : α → List Char) (a b : α) : Prop :=
  ∀ cs ds, EndsItem cs → EndsItem ds → text a ++ cs = text b ++ ds → a = b

theorem Told.behind {a b : α} (told : Told text a b) {cs ds : List Char} (stop : EndsItem cs)
    (stop' : EndsItem ds) (same : text a ++ cs = text b ++ ds) : a = b ∧ cs = ds := by
  obtain rfl := told cs ds stop stop' same
  exact ⟨rfl, List.append_cancel_left same⟩

theorem Told.symm {a b : α} (told : Told text a b) : Told text b a :=
  fun cs ds stop stop' same => (told ds cs stop' stop same.symm).symm

/-! ### Items between commas -/

/-- The items after the first, each behind a comma and a space. -/
def listedMore (text : α → List Char) (items : List α) : List Char :=
  items.flatMap fun a => ',' :: ' ' :: text a

/-- Items with commas between them. -/
def listed (text : α → List Char) : List α → List Char
  | [] => []
  | a :: rest => text a ++ listedMore text rest

theorem toList_commaSeparated (parts : List String) :
    (commaSeparated parts).toList = listed String.toList parts := by
  rw [commaSeparated, String.toList_intercalate]
  cases parts with
  | nil => rfl
  | cons part parts =>
    induction parts generalizing part with
    | nil => simp [listed, listedMore]
    | cons next parts ih =>
      rw [List.map_cons, List.map_cons, List.intercalate_cons_cons, ← List.map_cons, ih]
      simp [listed, listedMore]

theorem listed_map {β : Type} (f : β → α) (items : List β) :
    listed text (items.map f) = listed (fun b => text (f b)) items := by
  cases items with
  | nil => rfl
  | cons b rest => simp [listed, listedMore, List.flatMap_map]

theorem listedMore_cons (a : α) (items : List α) (cs : List Char) :
    listedMore text (a :: items) ++ cs =
      ',' :: ' ' :: (text a ++ (listedMore text items ++ cs)) := by
  simp [listedMore]

theorem endsItem_listedMore (items : List α) {cs : List Char} (stop : EndsItem cs) :
    EndsItem (listedMore text items ++ cs) := by
  cases items with
  | nil => exact stop
  | cons a items => exact endsItem_comma _

/-- Nothing follows the items but what closes them. -/
theorem listedMore_inj {as bs : List α} (told : ∀ a ∈ as, ∀ b, Told text a b) {c d : Char}
    {cs ds : List Char} (closes : Closes c) (closes' : Closes d)
    (same : listedMore text as ++ c :: cs = listedMore text bs ++ d :: ds) : as = bs := by
  induction as generalizing bs with
  | nil =>
    cases bs with
    | nil => rfl
    | cons b bs =>
      rw [listedMore_cons] at same
      exact (closes.ne_comma (List.cons.inj same).1).elim
  | cons a as ih =>
    cases bs with
    | nil =>
      rw [listedMore_cons] at same
      exact (closes'.ne_comma (List.cons.inj same).1.symm).elim
    | cons b bs =>
      rw [listedMore_cons, listedMore_cons] at same
      obtain ⟨rfl, behind⟩ := (told a (by simp) b).behind
        (endsItem_listedMore as (closes.endsItem cs)) (endsItem_listedMore bs (closes'.endsItem ds))
        (List.cons.inj (List.cons.inj same).2).2
      rw [ih (fun a member => told a (by simp [member])) behind]

/-- What begins like no closing bracket. -/
def Opens (cs : List Char) : Prop := ∃ c rest, cs = c :: rest ∧ ¬Closes c

theorem Opens.ne_close {cs rest more : List Char} {c : Char} (opens : Opens cs)
    (closes : Closes c) : c :: rest ≠ cs ++ more := by
  obtain ⟨d, ds, rfl, other⟩ := opens
  intro same
  exact other ((List.cons.inj same).1 ▸ closes)

/-- **Items are told apart** when each of them is. -/
theorem listed_inj {as bs : List α} (told : ∀ a ∈ as, ∀ b, Told text a b)
    (opens : ∀ a, Opens (text a)) {c d : Char} {cs ds : List Char} (closes : Closes c)
    (closes' : Closes d) (same : listed text as ++ c :: cs = listed text bs ++ d :: ds) :
    as = bs := by
  cases as with
  | nil =>
    cases bs with
    | nil => rfl
    | cons b bs =>
      rw [listed, listed, List.append_assoc] at same
      exact ((opens b).ne_close closes same).elim
  | cons a as =>
    cases bs with
    | nil =>
      rw [listed, listed, List.append_assoc] at same
      exact ((opens a).ne_close closes' same.symm).elim
    | cons b bs =>
      rw [listed, listed, List.append_assoc, List.append_assoc] at same
      obtain ⟨rfl, behind⟩ := (told a (by simp) b).behind
        (endsItem_listedMore as (closes.endsItem cs)) (endsItem_listedMore bs (closes'.endsItem ds))
        same
      rw [listedMore_inj (fun a member => told a (by simp [member])) closes closes' behind]

end Text
end Eligibility
