/-
# The greatest threshold that a score reaches

A table that is made of pairs has their thresholds and labels, each pair for one entry, whatever
order the entries come to stand in (`DecisionTable.ofPairs_eq_ok`).  Its thresholds descend strictly
exactly when they can all be compared, that is, unless a NaN stands beside another threshold; then
the order of the pairs makes no difference, and the label of a score is that of the greatest
threshold which the score reaches (`DecisionTable.greatest_reached`).

A NaN beside other thresholds is accepted.  It parts thresholds that are not in order, and a score
gets the label of a lower one than it reaches (`DecisionTable.greatest_passed_over`).
-/

import Mathlib.Data.List.Perm.Basic
import Eligibility.Proofs.Decision
import Eligibility.Proofs.Insertion

namespace Eligibility

/-- Numbers in order are strictly so when they are not equal. -/
theorem Double.lt_of_le_of_apart {x y : Double} (le : x.le y) (apart : x.eq y = false) :
    x.lt y = true := by
  obtain ⟨a, b, hx, hy, below⟩ := Double.le_iff.1 le
  have distinct : a ≠ b := by simpa [Double.eq, hx, hy] using apart
  simp only [Double.lt, hx, hy, decide_eq_true_eq]
  omega

theorem Double.ne_nan_of_lt {x y : Double} (lt : x.lt y) : x ≠ .nan ∧ y ≠ .nan := by
  constructor
  · rintro rfl
    cases lt
  · rintro rfl
    cases x <;> cases lt

theorem Double.not_lt_of_lt {x y : Double} (lt : x.lt y) : y.lt x = false := by
  unfold Double.lt at lt ⊢
  cases hx : x.rank <;> cases hy : y.rank <;> simp_all
  omega

namespace DecisionTable

variable {table : DecisionTable} {entries known : List (Double × String)}
  {pairs others : List (Value × Value)} {fallback : Option String}

/-! ### What a table is made of -/

/-- A pair of threshold and label makes an entry. -/
def Makes (pair : Value × Value) (entry : Double × String) : Prop :=
  threshold pair.1 = .ok entry.1 ∧ pair.2.display = entry.2

/-- No two entries have the same threshold. -/
def Apart (entries : List (Double × String)) : Prop :=
  entries.Pairwise fun a b => a.1.eq b.1 = false

theorem Apart.perm {more : List (Double × String)} (apart : Apart entries)
    (perm : entries.Perm more) : Apart more :=
  (perm.pairwise_iff fun {a b} h => by rwa [Double.eq_comm]).1 apart

/-- Entries are collected when every pair makes one and no threshold comes twice. -/
theorem collect_eq_ok (apart : Apart known) :
    collect known pairs = .ok entries ↔
      ∃ more, List.Forall₂ Makes pairs more ∧ known ++ more = entries ∧ Apart entries := by
  induction pairs generalizing known with
  | nil =>
    constructor
    · intro came
      obtain rfl := Except.ok.inj came
      exact ⟨[], .nil, List.append_nil _, apart⟩
    · rintro ⟨_, ⟨⟩, rfl, -⟩
      rw [List.append_nil]
      rfl
  | cons pair rest ih =>
    obtain ⟨given, label⟩ := pair
    constructor
    · intro came
      obtain ⟨x, found, came⟩ := bind_eq_ok.1 came
      split at came
      · cases came
      · next fresh =>
        have apart' : Apart (known ++ [(x, label.display)]) := by
          refine List.pairwise_append.2 ⟨apart, List.pairwise_singleton .., fun a ha b hb => ?_⟩
          obtain rfl := List.mem_singleton.1 hb
          simpa using List.find?_eq_none.1 fresh a ha
        obtain ⟨more, made, rfl, whole⟩ := (ih apart').1 came
        exact ⟨(x, label.display) :: more, .cons ⟨found, rfl⟩ made, by simp, whole⟩
    · rintro ⟨_, _ | @⟨_, entry, _, more, ⟨found, labelled⟩, made⟩, rfl, whole⟩
      have fresh : known.find? (fun other => other.1.eq entry.1) = none := by
        refine List.find?_eq_none.2 fun other member => ?_
        have distinct := (List.pairwise_append.1 whole).2.2 other member entry (by simp)
        simpa using distinct
      have same : known ++ entry :: more = (known ++ [entry]) ++ more := by simp
      have apart' : Apart (known ++ [entry]) := (List.pairwise_append.1 (same ▸ whole)).1
      rw [collect]
      refine bind_eq_ok.2 ⟨_, found, ?_⟩
      rw [fresh, labelled]
      exact (ih apart').2 ⟨more, made, same.symm, whole⟩

/-- **A table is made when every pair makes an entry and no threshold comes twice.** -/
theorem ofPairs_eq_ok : ofPairs pairs fallback = .ok table ↔
    ∃ entries, List.Forall₂ Makes pairs entries ∧ Apart entries ∧
      ⟨descending entries, fallback⟩ = table := by
  rw [ofPairs, bind_eq_ok]
  constructor
  · rintro ⟨entries, came, same⟩
    obtain ⟨_, made, rfl, apart⟩ := (collect_eq_ok .nil).1 came
    exact ⟨_, made, apart, Except.ok.inj same⟩
  · rintro ⟨entries, made, apart, rfl⟩
    exact ⟨entries, (collect_eq_ok .nil).2 ⟨entries, made, rfl, apart⟩, rfl⟩

/-! ### The order of the entries -/

/-- Putting entries in order neither loses one nor adds any, also where a NaN has no place. -/
theorem perm_descending (entries : List (Double × String)) :
    (descending entries).Perm entries := by
  rw [descending]
  split
  · exact (List.reverse_perm _).trans ((Insertion.perm_sort _ _).trans (List.reverse_perm _))
  · exact List.mergeSort_perm ..

/-- Each threshold is strictly below the ones before it. -/
def StrictlyDescends (table : DecisionTable) : Prop :=
  table.entries.Pairwise fun a b => b.1.lt a.1

theorem StrictlyDescends.descends (strictly : table.StrictlyDescends) : table.Descends :=
  strictly.imp fun {a b} lt => by
    obtain ⟨lower, higher⟩ := Double.ne_nan_of_lt lt
    rw [Double.le_eq_not_lt higher lower, Double.not_lt_of_lt lt]
    rfl

/-- Numbers that stand in strict order beside others are no NaN. -/
theorem ne_nan_of_pairwise (strictly : entries.Pairwise fun a b => b.1.lt a.1)
    (several : 1 < entries.length) : ∀ entry ∈ entries, entry.1 ≠ .nan := by
  match entries with
  | first :: second :: rest =>
    obtain ⟨below, -⟩ := List.pairwise_cons.1 strictly
    intro entry member
    rcases List.mem_cons.1 member with rfl | member
    · exact (Double.ne_nan_of_lt (below second (by simp))).2
    · exact (Double.ne_nan_of_lt (below entry member)).1

/-- Thresholds that can all be compared: no NaN stands beside another threshold. -/
def Comparable (pairs : List (Value × Value)) : Prop :=
  pairs.length ≤ 1 ∨ ∀ pair ∈ pairs, threshold pair.1 ≠ .ok .nan

theorem Comparable.perm (comparable : Comparable pairs) (perm : others.Perm pairs) :
    Comparable others :=
  comparable.imp (fun few => perm.length_eq ▸ few)
    fun none pair member => none pair (perm.mem_iff.1 member)

theorem ne_nan_iff (made : List.Forall₂ Makes pairs entries) :
    (∀ entry ∈ entries, entry.1 ≠ .nan) ↔ ∀ pair ∈ pairs, threshold pair.1 ≠ .ok .nan := by
  induction made with
  | nil => simp
  | cons own more ih =>
    rw [List.forall_mem_cons, List.forall_mem_cons, ih, own.1]
    exact and_congr_left' (not_congr (Except.ok.injEq ..).to_iff.symm)

/-- **Thresholds descend strictly exactly when they can all be compared.** -/
theorem pairwise_descending_iff (made : List.Forall₂ Makes pairs entries) (apart : Apart entries) :
    ((descending entries).Pairwise fun a b => b.1.lt a.1) ↔ Comparable pairs := by
  have perm := perm_descending entries
  have length : (descending entries).length = pairs.length :=
    perm.length_eq.trans made.length_eq.symm
  constructor
  · intro strictly
    refine or_iff_not_imp_left.2 fun several => (ne_nan_iff made).1 fun entry member => ?_
    exact ne_nan_of_pairwise strictly (by omega) entry (perm.mem_iff.2 member)
  · rintro (few | given)
    · match same : descending entries with
      | [] => exact .nil
      | [entry] => exact List.pairwise_singleton ..
      | _ :: _ :: _ =>
        rw [same] at length
        simp only [List.length_cons] at length
        omega
    · have ordered := descends_of_not_nan ((ne_nan_iff made).2 given)
      refine (ordered.and (apart.perm perm.symm)).imp fun {a b} both => ?_
      exact Double.lt_of_le_of_apart both.1 (by rw [Double.eq_comm, both.2])

/-- Comparable thresholds come to stand in one order, however they are given. -/
theorem ofPairs_of_perm (made : ofPairs pairs fallback = .ok table) (comparable : Comparable pairs)
    (perm : others.Perm pairs) : ofPairs others fallback = .ok table := by
  obtain ⟨entries, entry, apart, rfl⟩ := ofPairs_eq_ok.1 made
  obtain ⟨moved, entry', perm'⟩ := List.perm_comp_forall₂ perm entry
  have apart' : Apart moved := apart.perm perm'.symm
  have same : descending moved = descending entries := by
    have strictly := (pairwise_descending_iff entry apart).2 comparable
    have strictly' := (pairwise_descending_iff entry' apart').2 (comparable.perm perm)
    have moves := (perm_descending moved).trans (perm'.trans (perm_descending entries).symm)
    refine moves.eq_of_pairwise (fun a b _ _ below above => ?_) strictly' strictly
    rw [Double.not_lt_of_lt below] at above
    cases above
  rw [← same]
  exact ofPairs_eq_ok.2 ⟨moved, entry', apart', rfl⟩

/-! ### The label of a score -/

/-- The label that is due to a score: that of the greatest threshold which the score reaches, and
where it reaches none, that of the table for such scores, unless it is empty, or else the default
one. -/
def Due (table : DecisionTable) (default : String) (score : Double) (label : String) : Prop :=
  (∃ entry ∈ table.entries, entry.1.le score ∧
    (∀ other ∈ table.entries, other.1.le score → other.1.le entry.1) ∧ label = entry.2) ∨
  (∀ entry ∈ table.entries, entry.1.le score = false) ∧
    label = (table.fallback.filter (· ≠ "")).getD default

theorem fallbackLabel_eq (table : DecisionTable) (default : String) :
    table.fallbackLabel default = (table.fallback.filter (· ≠ "")).getD default := by
  unfold fallbackLabel
  cases table.fallback with
  | none => rfl
  | some label => by_cases empty : label = "" <;> simp [Option.filter, empty]

/-- The first threshold that a score reaches is the greatest one. -/
theorem le_of_reached? (descends : table.Descends) {score : Double} {entry : Double × String}
    (found : table.reached? score = some entry) {other : Double × String}
    (member : other ∈ table.entries) (reached : other.1.le score) : other.1.le entry.1 := by
  obtain ⟨own, before, after, parts, missed⟩ := List.find?_eq_some_iff_append.1 found
  unfold Descends at descends
  rw [parts] at member descends
  rcases List.mem_append.1 member with early | late
  · have no := missed other early
    rw [reached] at no
    cases no
  · rcases List.mem_cons.1 late with rfl | later
    · exact Double.le_refl_of_le own
    · exact (List.pairwise_cons.1 (List.pairwise_append.1 descends).2.1).1 other later

theorem due_label (descends : table.Descends) (default : String) (score : Double) :
    table.Due default score (table.label default score) := by
  rw [label_eq]
  cases found : table.reached? score with
  | some entry =>
    have reached : entry.1.le score = true := by
      simpa using List.find?_some found
    refine .inl ⟨entry, List.mem_of_find?_eq_some found, reached,
      fun other member reached => le_of_reached? descends found member reached, rfl⟩
  | none =>
    refine .inr ⟨fun entry member => ?_, fallbackLabel_eq table default⟩
    simpa using List.find?_eq_none.1 found entry member

/-- **The greatest threshold that a score reaches settles its label.**  A table that is accepted
has the thresholds and labels it was given.  They descend strictly exactly when they can all be
compared, and then the order in which they were given makes no difference, and every score gets the
label that is due to it. -/
theorem greatest_reached (made : ofPairs pairs fallback = .ok table) :
    (∃ entries, List.Forall₂ Makes pairs entries ∧ table.entries.Perm entries ∧
      table.fallback = fallback) ∧
    (table.StrictlyDescends ↔ Comparable pairs) ∧
    (Comparable pairs → (∀ others, others.Perm pairs → ofPairs others fallback = .ok table) ∧
      ∀ default score, table.Due default score (table.label default score)) := by
  obtain ⟨entries, entry, apart, same⟩ := ofPairs_eq_ok.1 made
  have strictly : table.StrictlyDescends ↔ Comparable pairs := by
    rw [← pairwise_descending_iff entry apart, ← same]
    rfl
  refine ⟨⟨entries, entry, ?_⟩, strictly, fun comparable => ⟨fun others perm => ?_, ?_⟩⟩
  · rw [← same]
    exact ⟨perm_descending entries, rfl⟩
  · exact ofPairs_of_perm made comparable perm
  · exact due_label (strictly.2 comparable).descends

/-- Thresholds of four kinds, and an empty label below them. -/
def assorted : List (Value × Value) :=
  [(.text "inf", .text "Top"), (.int 90, .text "High"),
    (.decimal (.finite false 505 (-1)), .text "Mid"), (.text " 1_0 ", .text "Low")]

/-- The table of those pairs. -/
def bands : DecisionTable where
  entries := [(.infinite false, "Top"), (.ofNat 90, "High"), (.ratio 101 2, "Mid"),
    (.ofNat 10, "Low")]
  fallback := some ""

theorem ofPairs_assorted : ofPairs assorted (some "") = .ok bands := by
  have entries : collect [] assorted = .ok bands.entries := ok_of_toOption (by decide +kernel)
  have ordered : bands.entries.any (·.1.isNaN) = false := by decide +kernel
  have sorted : descending bands.entries = bands.entries := by
    rw [descending, ordered]
    exact List.mergeSort_of_pairwise (by decide +kernel)
  rw [ofPairs, entries]
  change Except.ok (DecisionTable.mk (descending bands.entries) (some "")) = _
  rw [sorted]
  rfl

/-- The requirement can be met: the pairs may be turned round, a score that is a threshold gets the
label of that one, and a score below them all the default label. -/
theorem greatest_reached_assorted :
    ofPairs assorted (some "") = .ok bands ∧ Comparable assorted ∧ bands.StrictlyDescends ∧
      ofPairs assorted.reverse (some "") = .ok bands ∧ bands.Due "Rejected" (.ofNat 90) "High" ∧
      bands.Due "Rejected" .zero "Rejected" := by
  have comparable : Comparable assorted := by
    have number : ∀ pair ∈ assorted, (threshold pair.1).toOption ≠ some .nan := by decide +kernel
    exact .inr fun pair member nan => number pair member (congrArg Except.toOption nan)
  obtain ⟨-, strictly, rest⟩ := greatest_reached ofPairs_assorted
  obtain ⟨free, due⟩ := rest comparable
  have high : bands.label "Rejected" (.ofNat 90) = "High" := by decide +kernel
  have low : bands.label "Rejected" .zero = "Rejected" := by decide +kernel
  have dueHigh := due "Rejected" (.ofNat 90)
  have dueLow := due "Rejected" .zero
  rw [high] at dueHigh
  rw [low] at dueLow
  exact ⟨ofPairs_assorted, comparable, strictly.2 comparable, free _ (List.reverse_perm _),
    dueHigh, dueLow⟩

/-- Two thresholds with a NaN between them. -/
def parted : List (Value × Value) :=
  [(.int 50, .text "Pass"), (.double .nan, .text "Unknown"), (.int 70, .text "Merit")]

/-- The entry of the lower threshold. -/
def pass : Double × String := (.ofNat 50, "Pass")

/-- The entry of the higher threshold. -/
def merit : Double × String := (.ofNat 70, "Merit")

/-- **Beside a NaN the greatest threshold is passed over.**  A score of 80 gets the label of 50, not
that of 70, and when the pairs are turned round it gets the other one. -/
theorem greatest_passed_over :
    ∃ table turned, ofPairs parted none = .ok table ∧ ofPairs parted.reverse none = .ok turned ∧
      table.entries = [pass, (.nan, "Unknown"), merit] ∧ ¬ table.StrictlyDescends ∧
      table.label "Rejected" (.ofNat 80) = "Pass" ∧ ¬ table.Due "Rejected" (.ofNat 80) "Pass" ∧
      turned.label "Rejected" (.ofNat 80) = "Merit" := by
  have shape : (ofPairs parted none).toOption.map (fun table => (table.entries,
      table.label "Rejected" (.ofNat 80))) = some ([pass, (.nan, "Unknown"), merit], "Pass") := by
    decide +kernel
  have shape' : (ofPairs parted.reverse none).toOption.map
      (fun table => table.label "Rejected" (.ofNat 80)) = some "Merit" := by
    decide +kernel
  obtain ⟨table, made, same⟩ := exists_ok_of_toOption shape
  obtain ⟨turned, made', label'⟩ := exists_ok_of_toOption shape'
  obtain ⟨entries, label⟩ := Prod.mk.inj same
  refine ⟨table, turned, made, made', entries, fun strictly => ?_, label, fun due => ?_, label'⟩
  · rw [StrictlyDescends, entries] at strictly
    have beside := (List.pairwise_cons.1 strictly).1 (.nan, "Unknown") List.mem_cons_self
    cases beside
  · have reached : merit.1.le (.ofNat 80) = true := by decide +kernel
    have above : merit.1.le pass.1 = false := by decide +kernel
    have member : merit ∈ table.entries := by simp [entries]
    rcases due with ⟨entry, among, -, greatest, own⟩ | ⟨missed, -⟩
    · have top := greatest merit member reached
      rw [entries] at among
      simp only [List.mem_cons, List.not_mem_nil, or_false] at among
      rcases among with rfl | rfl | rfl
      · exact Bool.eq_false_iff.1 above top
      · exact absurd own (by decide)
      · exact absurd own (by decide)
    · exact Bool.eq_false_iff.1 (missed merit member) reached

end DecisionTable
end Eligibility
