/-
# Decisions follow the score

The thresholds of a table that was built without a NaN stand in descending order
(`DecisionTable.Proper.descends`), so the first one that a score reaches is the highest one, and a
higher score never reaches a lower one first (`DecisionTable.reached?_mono`).

A NaN among the thresholds is incomparable with every other number.  It may part thresholds that
are not in order, and then a higher score can meet a lower threshold.
-/

import Eligibility.Decision
import Eligibility.Proofs.Double.Order
import Eligibility.Proofs.Trial

namespace Eligibility
namespace DecisionTable

variable {table : DecisionTable} {entries known : List (Double × String)}
  {pairs : List (Value × Value)}

/-- The threshold that a score reaches, with its label. -/
def reached? (table : DecisionTable) (score : Double) : Option (Double × String) :=
  table.entries.find? fun entry => entry.1.le score

/-- The label of a score is that of the threshold it reaches. -/
theorem label_eq (table : DecisionTable) (default : String) (score : Double) :
    table.label default score =
      ((table.reached? score).map (·.2)).getD (table.fallbackLabel default) := by
  unfold label reached?
  cases table.entries.find? fun entry => entry.1.le score <;> rfl

/-- A table that is made of pairs, none of them with a NaN for a threshold. -/
def Proper (table : DecisionTable) : Prop :=
  ∃ pairs fallback, ofPairs pairs fallback = .ok table ∧
    ∀ pair ∈ pairs, threshold pair.1 ≠ .ok .nan

/-- The thresholds of a table descend. -/
def Descends (table : DecisionTable) : Prop :=
  table.entries.Pairwise fun a b => b.1.le a.1

theorem not_nan_of_collect (came : collect known pairs = .ok entries)
    (before : ∀ entry ∈ known, entry.1 ≠ .nan)
    (given : ∀ pair ∈ pairs, threshold pair.1 ≠ .ok .nan) : ∀ entry ∈ entries, entry.1 ≠ .nan := by
  induction pairs generalizing known with
  | nil =>
    obtain rfl := Except.ok.inj came
    exact before
  | cons pair rest ih =>
    obtain ⟨x, found, came⟩ := bind_eq_ok.1 came
    have notNan : x ≠ .nan := by
      rintro rfl
      exact given pair List.mem_cons_self found
    split at came
    · cases came
    · refine ih came (fun entry member => ?_)
        fun pair member => given pair (List.mem_cons_of_mem _ member)
      rcases List.mem_append.1 member with member | member
      · exact before entry member
      · rw [List.mem_singleton.1 member]
        exact notNan

/-- The place of an entry in the order. A NaN has none, and gets the one of zero. -/
def height (entry : Double × String) : Int := entry.1.rank.getD 0

/-- Whether an entry stands at least as high as another. -/
def atLeast (a b : Double × String) : Bool := decide (height b ≤ height a)

theorem le_eq_atLeast {a b : Double × String} (ha : a.1 ≠ .nan) (hb : b.1 ≠ .nan) :
    b.1.le a.1 = atLeast a b := by
  obtain ⟨x, s⟩ := a
  obtain ⟨y, t⟩ := b
  cases x with
  | nan => exact absurd rfl ha
  | _ =>
    cases y with
    | nan => exact absurd rfl hb
    | _ => rfl

theorem pairwise_atLeast (entries : List (Double × String)) :
    (entries.mergeSort atLeast).Pairwise fun a b => atLeast a b = true := by
  refine List.pairwise_mergeSort (fun a b c first second => ?_) (fun a b => ?_) entries
  · simp only [atLeast, decide_eq_true_eq] at first second ⊢
    omega
  · simp only [atLeast, Bool.or_eq_true, decide_eq_true_eq]
    omega

theorem descends_of_not_nan (given : ∀ entry ∈ entries, entry.1 ≠ .nan) :
    (descending entries).Pairwise fun a b => b.1.le a.1 := by
  have notAny : entries.any (·.1.isNaN) = false := by
    rw [List.any_eq_false]
    intro entry member nan
    refine given entry member ?_
    cases h : entry.1 <;> simp_all [Double.isNaN]
  have same : entries.mergeSort (fun a b => b.1.le a.1) = entries.mergeSort atLeast := by
    have mapped := List.map_mergeSort (f := id) fun a ha b hb =>
      le_eq_atLeast (given a ha) (given b hb)
    rwa [List.map_id, List.map_id] at mapped
  have inside {entry : Double × String} (member : entry ∈ entries.mergeSort atLeast) :
      entry.1 ≠ .nan :=
    given entry ((List.mergeSort_perm ..).mem_iff.1 member)
  rw [descending, notAny, if_neg (by decide), same]
  refine (pairwise_atLeast entries).imp_of_mem fun {a b} ha hb le => ?_
  rw [le_eq_atLeast (inside ha) (inside hb)]
  exact le

/-- **A proper table descends.** -/
theorem Proper.descends (proper : table.Proper) : table.Descends := by
  obtain ⟨pairs, fallback, made, given⟩ := proper
  obtain ⟨entries, came, same⟩ := bind_eq_ok.1 made
  obtain rfl := Except.ok.inj same
  exact descends_of_not_nan (not_nan_of_collect came (by simp) given)

theorem builtIn_descends : builtIn.Descends := by
  have thresholds : (builtIn.entries.map (·.1)).Pairwise fun x y => y.le x := by decide +kernel
  exact List.pairwise_map.1 thresholds

/-- **A higher score does not reach a lower threshold first.** -/
theorem reached?_mono (descends : table.Descends) {lower higher : Double} (le : lower.le higher)
    {entry : Double × String} (found : table.reached? lower = some entry) :
    ∃ above, table.reached? higher = some above ∧ entry.1.le above.1 := by
  obtain ⟨entries, fallback⟩ := table
  change entries.Pairwise _ at descends
  change entries.find? _ = _ at found
  change ∃ above, entries.find? _ = _ ∧ _
  induction entries with
  | nil => cases found
  | cons first rest ih =>
    obtain ⟨below, others⟩ := List.pairwise_cons.1 descends
    rw [List.find?_cons] at found ⊢
    cases high : first.1.le higher with
    | true =>
      refine ⟨first, rfl, ?_⟩
      split at found
      · obtain rfl := Option.some.inj found
        exact Double.le_refl_of_le high
      · exact below entry (List.mem_of_find?_eq_some found)
    | false =>
      split at found
      · next reached =>
        rw [Double.le_trans reached le] at high
        cases high
      · exact ih others found

end DecisionTable
end Eligibility
