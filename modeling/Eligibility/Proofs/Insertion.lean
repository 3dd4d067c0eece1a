/-
# Sorting by insertion keeps the items

Whatever the comparison answers, a sorted list holds the items it was given, each as often
(`Insertion.perm_sort`): the run in front and what is left make up the list, turning the run round
loses nothing, and neither does inserting an item at any place.
-/

import Eligibility.Insertion
import Eligibility.Proofs.Trial

namespace Eligibility
namespace Insertion

variable {ε α : Type} {lt : α → α → Except ε Bool}

/-- A run and what is left after it are the list. -/
theorem append_of_runAfter {descending : Bool} {previous : α} {items run left : List α}
    (came : runAfter lt descending previous items = .ok (run, left)) : run ++ left = items := by
  induction items generalizing previous run left with
  | nil =>
    obtain ⟨rfl, rfl⟩ := Prod.mk.inj (Except.ok.inj came)
    rfl
  | cons x rest ih =>
    obtain ⟨less, -, came⟩ := bind_eq_ok.1 came
    split at came
    · obtain ⟨⟨more, after⟩, found, same⟩ := bind_eq_ok.1 came
      obtain ⟨rfl, rfl⟩ := Prod.mk.inj (Except.ok.inj same)
      rw [List.cons_append, ih found]
    · obtain ⟨rfl, rfl⟩ := Prod.mk.inj (Except.ok.inj came)
      rfl

theorem perm_insertAt (sorted : Array α) (place : Nat) (x : α) :
    (insertAt sorted place x).toList.Perm (x :: sorted.toList) := by
  have parts : (insertAt sorted place x).toList =
      sorted.toList.take place ++ x :: sorted.toList.drop place := by
    simp [insertAt, List.take_of_length_le]
  rw [parts]
  refine List.perm_middle.trans (List.Perm.cons x ?_)
  rw [List.take_append_drop]

theorem perm_of_insertAll {sorted result : Array α} {items : List α}
    (came : insertAll lt sorted items = .ok result) :
    result.toList.Perm (sorted.toList ++ items) := by
  induction items generalizing sorted with
  | nil =>
    obtain rfl := Except.ok.inj came
    rw [List.append_nil]
  | cons x rest ih =>
    obtain ⟨place, -, came⟩ := bind_eq_ok.1 came
    have inserted := (perm_insertAt sorted place x).append_right rest
    exact (ih came).trans (inserted.trans List.perm_middle.symm)

theorem perm_of_sort? {items sorted : List α} (came : sort? lt items = .ok sorted) :
    sorted.Perm items := by
  match items with
  | [] =>
    obtain rfl := Except.ok.inj came
    exact .nil
  | [x] =>
    obtain rfl := Except.ok.inj came
    exact .refl _
  | x :: y :: rest =>
    obtain ⟨descending, -, came⟩ := bind_eq_ok.1 came
    obtain ⟨⟨run, left⟩, split, came⟩ := bind_eq_ok.1 came
    obtain ⟨result, inserted, same⟩ := bind_eq_ok.1 came
    obtain rfl := Except.ok.inj same
    have turned : (if descending then (x :: y :: run).reverse else x :: y :: run).Perm
        (x :: y :: run) := by
      split
      · exact List.reverse_perm _
      · exact .refl _
    have whole := (perm_of_insertAll inserted).trans (turned.append_right left)
    rwa [List.cons_append, List.cons_append, append_of_runAfter split] at whole

/-- **A sorted list holds the items it was given.** -/
theorem perm_sort (lt : α → α → Bool) (items : List α) : (sort lt items).Perm items := by
  unfold sort
  split
  next sorted came => exact perm_of_sort? came

end Insertion
end Eligibility
