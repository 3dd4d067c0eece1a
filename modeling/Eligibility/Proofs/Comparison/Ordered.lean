/-
# One order of numbers

The operators that compare numbers ask for relations of one total order, in which each number stands
where the double does that it is or writes (`Operator.Orders.passes_iff`).  So of two numbers one is
below the other, equal to it or above it, and only one of these; and a value lies in a range when it
is neither below the one bound nor above the other (`Operator.numbers_ordered`).  What is no number
is neither below nor above anything.
-/

import Eligibility.Proofs.Comparison.Complement
import Eligibility.Proofs.Rule.Weight
import Eligibility.Proofs.Value.Loose

namespace Eligibility

/-! ### Numbers -/

namespace Value

variable {v : Value}

theorem number?_present (v : Value) : v.present.number? = v.number? := by
  cases v <;> rfl

/-- Where the number that a value is or writes stands in the order of numbers. -/
def rank? (v : Value) : Option Int :=
  match v.number? with
  | .ok (some x) => x.rank
  | _ => none

theorem rank?_eq_some {n : Int} :
    v.rank? = some n ↔ ∃ x, v.number? = .ok (some x) ∧ x.rank = some n := by
  unfold rank?
  split
  · next x found => simp [found]
  · next none =>
    constructor
    · nofun
    · rintro ⟨x, found, -⟩
      exact (none x found).elim

theorem isNumber_iff : v.IsNumber ↔ ∃ n, v.rank? = some n := by
  simp only [rank?_eq_some]
  constructor
  · rintro ⟨x, found⟩
    cases x with
    | nan => cases isFinite_of_number? found
    | infinite negative => exact ⟨_, _, found, rfl⟩
    | finite negative units exact => exact ⟨_, _, found, rfl⟩
  · rintro ⟨n, x, found, -⟩
    exact ⟨x, found⟩

end Value

/-! ### Comparisons of numbers -/

/-- What a comparison as numbers comes to. -/
theorem Comparison.result_ordered (test : Double → Double → Bool) (actual expected : Value) :
    (ordered test actual expected).result =
      (actual.number?.mapError .number >>= fun left =>
        expected.number?.mapError .number >>= fun right =>
          .ok (match left, right with
            | some x, some y => test x y
            | _, _ => false)) := by
  unfold ordered
  simp only [result_bind, result_ofNumber]
  congr 1
  funext left
  congr 1
  funext right
  cases left <;> cases right <;> rfl

/-- It comes to *yes* for two numbers that stand the test. -/
theorem Comparison.result_ordered_eq_true {test : Double → Double → Bool}
    {actual expected : Value} :
    (ordered test actual expected).result = .ok true ↔ ∃ x y, actual.number? = .ok (some x) ∧
      expected.number? = .ok (some y) ∧ test x y = true := by
  rw [result_ordered]
  constructor
  · intro came
    obtain ⟨left, readLeft, rest⟩ := bind_eq_ok.1 came
    obtain ⟨right, readRight, same⟩ := bind_eq_ok.1 rest
    rw [mapError_eq_ok] at readLeft readRight
    split at same
    · exact ⟨_, _, readLeft, readRight, Except.ok.inj same⟩
    · cases same
  · rintro ⟨x, y, left, right, stands⟩
    rw [left, right]
    exact congrArg Except.ok stands

namespace Operator

variable {op : Operator} {actual expected : Value}

/-- The actual value passes the comparison with the expected one. -/
def Passes (op : Operator) (actual expected : Value) : Prop :=
  (op.compare actual expected).value = true

/-- The relation that an operator asks for between two numbers, by their places in the order. -/
inductive Orders : Operator → (Int → Int → Prop) → Prop
  | lt : Orders lt fun m n => m < n
  | lte : Orders lte fun m n => m ≤ n
  | gt : Orders gt fun m n => n < m
  | gte : Orders gte fun m n => n ≤ m
  | eq : Orders eq fun m n => m = n
  | neq : Orders neq fun m n => m ≠ n

theorem passes_ordered {test : Double → Double → Bool}
    (carried : op.outcome actual expected =
      (Comparison.ordered test actual.present expected).result) :
    op.Passes actual expected ↔ ∃ x y, actual.number? = .ok (some x) ∧
      expected.number? = .ok (some y) ∧ test x y = true := by
  rw [Passes, passes_iff, carried, Comparison.result_ordered_eq_true, Value.number?_present]

theorem passes_ordered_iff {test : Double → Double → Bool} {x y : Double}
    (carried : op.outcome actual expected =
      (Comparison.ordered test actual.present expected).result)
    (left : actual.number? = .ok (some x)) (right : expected.number? = .ok (some y)) :
    op.Passes actual expected ↔ test x y = true := by
  rw [passes_ordered carried, left, right]
  simp

theorem outcome_eq_of_numbers {x y : Double} (left : actual.number? = .ok (some x))
    (right : expected.number? = .ok (some y)) : eq.outcome actual expected = .ok (x.eq y) := by
  rw [← Value.number?_present] at left
  exact mapError_eq_ok.2 (Value.looselyEqual_of_numbers left right)

/-- **The operators that compare numbers ask for relations of one order.** -/
theorem Orders.passes_iff {rel : Int → Int → Prop} {m n : Int} (orders : Orders op rel)
    (left : actual.rank? = some m) (right : expected.rank? = some n) :
    op.Passes actual expected ↔ rel m n := by
  obtain ⟨x, readLeft, hx⟩ := Value.rank?_eq_some.1 left
  obtain ⟨y, readRight, hy⟩ := Value.rank?_eq_some.1 right
  cases orders with
  | lt => exact (passes_ordered_iff rfl readLeft readRight).trans (by simp [Double.lt, hx, hy])
  | lte => exact (passes_ordered_iff rfl readLeft readRight).trans (by simp [Double.le, hx, hy])
  | gt => exact (passes_ordered_iff rfl readLeft readRight).trans (by simp [Double.lt, hx, hy])
  | gte => exact (passes_ordered_iff rfl readLeft readRight).trans (by simp [Double.le, hx, hy])
  | eq =>
    rw [Passes, Operator.passes_iff, outcome_eq_of_numbers readLeft readRight]
    simp [Double.eq, hx, hy]
  | neq =>
    rw [Passes, Operator.passes_iff, outcome_neq, outcome_eq_of_numbers readLeft readRight]
    simp [Double.eq, hx, hy, Except.map]

/-- Only a number is above or below anything, and only above or below a number. -/
theorem isNumber_of_passes (compares : op ∈ [gt, gte, lt, lte])
    (passes : op.Passes actual expected) : actual.IsNumber ∧ expected.IsNumber := by
  have carried : ∃ test, op.outcome actual expected =
      (Comparison.ordered test actual.present expected).result := by
    simp only [List.mem_cons, List.not_mem_nil, or_false] at compares
    rcases compares with rfl | rfl | rfl | rfl
    all_goals exact ⟨_, rfl⟩
  obtain ⟨test, carried⟩ := carried
  obtain ⟨x, y, left, right, -⟩ := (passes_ordered carried).1 passes
  exact ⟨⟨x, left⟩, y, right⟩

/-- A value lies in a range when it is not below the first item and not above the second. -/
theorem passes_between {range low high : Value} (pair : range.sequence? = some [low, high]) :
    between.Passes actual range ↔ gte.Passes actual low ∧ lte.Passes actual high := by
  have carried : between.outcome actual range =
      (Comparison.ranged true actual.present range).result := rfl
  have least : gte.Passes actual low ↔ _ := passes_ordered rfl
  have most : lte.Passes actual high ↔ _ := passes_ordered rfl
  rw [least, most, Passes, passes_iff, carried, Comparison.result_ranged, Value.number?_present]
  constructor
  · intro came
    obtain ⟨found, bounds, rest⟩ := bind_eq_ok.1 came
    obtain ⟨value, number, same⟩ := bind_eq_ok.1 rest
    rw [mapError_eq_ok] at bounds number
    split at same
    · next l h x =>
      obtain ⟨first, second, items, left, right, -⟩ := Comparison.orderedPair?_eq_some.1 bounds
      obtain ⟨rfl, rfl⟩ : low = first ∧ high = second := by simpa [pair] using items
      have lies : l.le x = true ∧ x.le h = true := by simpa using Except.ok.inj same
      exact ⟨⟨x, l, number, left, lies.1⟩, x, h, number, right, lies.2⟩
    · cases same
  · rintro ⟨⟨x, l, number, left, below⟩, x', h, number', right, above⟩
    obtain rfl : x = x' := by simpa [number] using number'
    have bounds := Comparison.orderedPair?_eq_some.2
      ⟨low, high, pair, left, right, Double.le_trans below above⟩
    rw [bounds, number]
    show (.ok ((l.le x && x.le h) == true) : Except _ _) = .ok true
    rw [below, above]
    rfl

/-- The operator that passes for two numbers in this order. -/
def ofOrdering : Ordering → Operator
  | .lt => lt
  | .eq => eq
  | .gt => gt

theorem passes_iff_ofOrdering {m n : Int} (left : actual.rank? = some m)
    (right : expected.rank? = some n) :
    op ∈ [lt, eq, gt] ∧ op.Passes actual expected ↔ op = ofOrdering (Ord.compare m n) := by
  have below := Orders.lt.passes_iff left right
  have equal := Orders.eq.passes_iff left right
  have above := Orders.gt.passes_iff left right
  constructor
  · rintro ⟨member, passes⟩
    simp only [List.mem_cons, List.not_mem_nil, or_false] at member
    rcases member with rfl | rfl | rfl
    · rw [compare_lt_iff_lt.2 (below.1 passes), ofOrdering]
    · rw [compare_eq_iff_eq.2 (equal.1 passes), ofOrdering]
    · rw [compare_gt_iff_gt.2 (above.1 passes), ofOrdering]
  · rintro rfl
    cases order : Ord.compare m n with
    | lt => exact ⟨by simp [ofOrdering], below.2 (compare_lt_iff_lt.1 order)⟩
    | eq => exact ⟨by simp [ofOrdering], equal.2 (compare_eq_iff_eq.1 order)⟩
    | gt => exact ⟨by simp [ofOrdering], above.2 (compare_gt_iff_gt.1 order)⟩

/-- **Operators that compare numbers agree on one order.**  A number is below another, equal to it
or above it, and only one of these; the other operators pass accordingly.  A value lies in a range
when it is at least the first bound and at most the second, whichever these are.  Nothing is above
or below what is no number. -/
theorem numbers_ordered :
    (∀ op rel, Orders op rel → ∀ (actual expected : Value) (m n : Int), actual.rank? = some m →
      expected.rank? = some n → (op.Passes actual expected ↔ rel m n)) ∧
    (∀ actual expected : Value, actual.IsNumber → expected.IsNumber →
      (∃! op, op ∈ [lt, eq, gt] ∧ op.Passes actual expected) ∧
      (gte.Passes actual expected ↔ gt.Passes actual expected ∨ eq.Passes actual expected) ∧
      (lte.Passes actual expected ↔ lt.Passes actual expected ∨ eq.Passes actual expected) ∧
      (neq.Passes actual expected ↔ lt.Passes actual expected ∨ gt.Passes actual expected)) ∧
    (∀ actual range low high : Value, range.sequence? = some [low, high] →
      (between.Passes actual range ↔ gte.Passes actual low ∧ lte.Passes actual high)) ∧
    ∀ actual expected : Value, ¬actual.IsNumber ∨ ¬expected.IsNumber →
      ∀ op ∈ [gt, gte, lt, lte], ¬op.Passes actual expected := by
  refine ⟨fun op rel orders actual expected m n left right => orders.passes_iff left right,
    fun actual expected number number' => ?_,
    fun actual range low high pair => passes_between pair,
    fun actual expected none op compares passes => ?_⟩
  · obtain ⟨m, left⟩ := Value.isNumber_iff.1 number
    obtain ⟨n, right⟩ := Value.isNumber_iff.1 number'
    have below := Orders.lt.passes_iff left right
    have equal := Orders.eq.passes_iff left right
    have above := Orders.gt.passes_iff left right
    refine ⟨?_, ?_, ?_, ?_⟩
    · exact ⟨_, (passes_iff_ofOrdering left right).2 rfl, fun op one =>
        (passes_iff_ofOrdering left right).1 one⟩
    · rw [Orders.gte.passes_iff left right, above, equal]
      omega
    · rw [Orders.lte.passes_iff left right, below, equal]
      omega
    · rw [Orders.neq.passes_iff left right, below, above]
      omega
  · obtain ⟨number, number'⟩ := isNumber_of_passes compares passes
    exact none.elim (absurd number) (absurd number')

/-- The requirements can be met: a text writes a number below another one and in a range, and a
boolean is no number. -/
theorem numbers_ordered_assorted :
    let two : Value := .text " 2 "
    two.IsNumber ∧ Value.IsNumber (.int 3) ∧ lt.Passes two (.int 3) ∧ neq.Passes two (.int 3) ∧
    lte.Passes two (.int 3) ∧ ¬eq.Passes two (.int 3) ∧ ¬gt.Passes two (.int 3) ∧
    between.Passes two (.tuple [.int 1, .int 3]) ∧
    ¬Value.IsNumber (.bool true) ∧ ¬gt.Passes (.bool true) (.int 0) := by
  intro two
  obtain ⟨-, numbers, ranges, others⟩ := numbers_ordered
  have below : lt.Passes two (.int 3) := by
    show (lt.compare _ _).value = true
    decide +kernel
  have above : gte.Passes two (.int 1) := by
    show (gte.compare _ _).value = true
    decide +kernel
  obtain ⟨number, number'⟩ := isNumber_of_passes (by simp) below
  obtain ⟨one, -, atMost, differ⟩ := numbers two (.int 3) number number'
  have lies := (ranges two (.tuple [.int 1, .int 3]) _ _ rfl).2 ⟨above, atMost.2 (.inl below)⟩
  have none : ¬Value.IsNumber (.bool true) := by rintro ⟨x, ⟨⟩⟩
  refine ⟨number, number', below, differ.2 (.inl below), atMost.2 (.inl below), fun equal => ?_,
    fun larger => ?_, lies, none, others _ _ (.inl none) gt (by simp)⟩
  · cases one.unique ⟨by simp, below⟩ ⟨by simp, equal⟩
  · cases one.unique ⟨by simp, below⟩ ⟨by simp, larger⟩

end Operator
end Eligibility
