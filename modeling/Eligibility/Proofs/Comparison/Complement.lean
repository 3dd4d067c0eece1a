/-
# Complementary operators

Five pairs of operators ask one question, the second of each for the opposite answer.  Their
comparisons are opposed: both come to an answer and these differ, or both are abandoned, or both
come to *no* because the operands make no sense for the question (`Complements.opposed`).  So the
two never both pass, and where neither does the reason is one of these
(`Operator.complements_exclusive`).
-/

import Eligibility.Proofs.Comparison

namespace Eligibility

/-- A list or tuple of two numbers of which the first is not above the second. -/
def Value.IsRange (v : Value) : Prop :=
  ∃ first second low high, v.sequence? = some [first, second] ∧
    first.number? = .ok (some low) ∧ second.number? = .ok (some high) ∧ low.le high = true

/-- A number, or a text that writes one. -/
def Value.IsNumber (v : Value) : Prop := ∃ x, v.number? = .ok (some x)

namespace Comparison

/-- What complementary comparisons come to; `senseless` is the condition under which both come to
*no*. -/
inductive Opposed (senseless : Prop) : Except Fault Bool → Except Fault Bool → Prop
  | answered (sensible : ¬senseless) (passed : Bool) : Opposed senseless (.ok passed) (.ok !passed)
  | unanswered (holds : senseless) : Opposed senseless (.ok false) (.ok false)
  | abandoned (fault : Fault) : Opposed senseless (.error fault) (.error fault)

theorem opposed_map_not {senseless : Prop} (sensible : ¬senseless) (x : Except Fault Bool) :
    Opposed senseless x (x.map not) := by
  cases x with
  | ok passed => exact .answered sensible passed
  | error fault => exact .abandoned fault

/-! ### Ranges -/

theorem pair?_eq_some {v first second : Value} :
    pair? v = some (first, second) ↔ v.sequence? = some [first, second] := by
  unfold pair?
  split
  · next found => simp [found]
  · next other =>
    constructor
    · nofun
    · intro found
      exact (other _ _ found).elim

theorem orderedPair?_eq_some {v : Value} {low high : Double} :
    orderedPair? v = .ok (some (low, high)) ↔ ∃ first second, v.sequence? = some [first, second] ∧
      first.number? = .ok (some low) ∧ second.number? = .ok (some high) ∧ low.le high = true := by
  constructor
  · intro came
    unfold orderedPair? at came
    split at came
    · next first second found =>
      obtain ⟨left, readLeft, came⟩ := bind_eq_ok.1 came
      obtain ⟨right, readRight, came⟩ := bind_eq_ok.1 came
      split at came
      · next low' high' =>
        split at came
        · next le =>
          cases came
          exact ⟨first, second, pair?_eq_some.1 found, readLeft, readRight, le⟩
        · cases came
      · cases came
    · cases came
  · rintro ⟨first, second, items, left, right, le⟩
    rw [orderedPair?, pair?_eq_some.2 items]
    simp only
    rw [left, right]
    show (.ok (if low.le high then some (low, high) else none) : Except _ _) = _
    rw [if_pos le]

theorem isRange_iff {v : Value} :
    v.IsRange ↔ ∃ low high, orderedPair? v = .ok (some (low, high)) := by
  simp only [orderedPair?_eq_some]
  constructor
  · rintro ⟨first, second, low, high, found⟩
    exact ⟨low, high, first, second, found⟩
  · rintro ⟨low, high, first, second, found⟩
    exact ⟨first, second, low, high, found⟩

/-- What a comparison with a range comes to. -/
theorem result_ranged (inside : Bool) (actual expected : Value) :
    (ranged inside actual expected).result =
      ((orderedPair? expected).mapError .number >>= fun found =>
        (actual.number?).mapError .number >>= fun value =>
          .ok (match found, value with
            | some (low, high), some x => (low.le x && x.le high) == inside
            | _, _ => false)) := by
  unfold ranged bounds
  simp only [result_bind, result_ofNumber]
  cases orderedPair? expected with
  | error fault => rfl
  | ok found =>
    cases found with
    | none =>
      cases actual.number? with
      | error fault => rfl
      | ok value => rfl
    | some bounds =>
      cases actual.number? with
      | error fault => rfl
      | ok value =>
        cases value with
        | none => rfl
        | some x => rfl

theorem opposed_ranged (actual expected : Value) :
    Opposed (¬expected.IsRange ∨ ¬actual.IsNumber)
      (ranged true actual expected).result (ranged false actual expected).result := by
  rw [result_ranged, result_ranged]
  cases pair : orderedPair? expected with
  | error fault => exact .abandoned _
  | ok found =>
    cases read : actual.number? with
    | error fault => exact .abandoned _
    | ok value =>
      cases found with
      | none =>
        refine .unanswered (.inl fun range => ?_)
        obtain ⟨low, high, pair'⟩ := isRange_iff.1 range
        cases pair.symm.trans pair'
      | some bounds =>
        obtain ⟨low, high⟩ := bounds
        cases value with
        | none =>
          refine .unanswered (.inr ?_)
          rintro ⟨x, number⟩
          cases read.symm.trans number
        | some x =>
          have sensible : ¬(¬expected.IsRange ∨ ¬actual.IsNumber) := by
            rintro (empty | none)
            · exact empty (isRange_iff.2 ⟨low, high, pair⟩)
            · exact none ⟨x, read⟩
          show Opposed _ (.ok ((low.le x && x.le high) == true))
            (.ok ((low.le x && x.le high) == false))
          rw [beq_true, beq_false]
          exact .answered sensible _

/-! ### Members -/

theorem opposed_among (actual expected : Value) :
    Opposed (∀ items, expected.collection? = some items → items = [])
      (among actual expected).result (notAmong actual expected).result := by
  unfold among notAmong members
  split
  · next item items given =>
    have sensible : ¬∀ items, expected.collection? = some items → items = [] := fun empty =>
      List.cons_ne_nil item items (empty _ given)
    cases absent : actual.isNull with
    -- `null` is not looked for among the items
    | true => exact .answered sensible false
    | false =>
      simp only [pure_bind, Bool.false_eq_true, if_false, result_bind, result_ofNumber]
      cases actual.equalsAny (item :: items) with
      | ok passed => exact .answered sensible passed
      | error fault => exact .abandoned _
  · next none =>
    refine .unanswered fun items given => ?_
    cases items with
    | nil => rfl
    | cons item items => exact (none item items given).elim

end Comparison

namespace Operator

open Comparison (Opposed)

/-- Two operators of which the second passes when the first does not, as far as the question makes
sense. -/
inductive Complements : Operator → Operator → Prop
  | equality : Complements eq neq
  | membership : Complements among notAmong
  | range : Complements between notBetween
  | emptiness : Complements empty notEmpty
  | presence : Complements present absent

/-- When the question of an operator makes no sense: nothing is given to be among, or there is no
range, or no number to lie in it. -/
def Senseless (actual expected : Value) : Operator → Prop
  | among => ∀ items, expected.collection? = some items → items = []
  | between => ¬expected.IsRange ∨ ¬actual.IsNumber
  | _ => False

/-- The comparison is abandoned on the way. -/
def Abandoned (actual expected : Value) (operator : Operator) : Prop :=
  ∃ fault, operator.outcome actual expected = .error fault

variable {op co : Operator} {actual expected : Value}

theorem isNumber_present : actual.present.IsNumber ↔ actual.IsNumber := by
  cases actual with
  | missing => exact Iff.rfl
  | _ => exact Iff.rfl

theorem outcome_neq : neq.outcome actual expected = (eq.outcome actual expected).map not :=
  Comparison.result_map ..

/-- **Complementary operators have opposed comparisons.** -/
theorem Complements.opposed (pair : Complements op co) (actual expected : Value) :
    Opposed (op.Senseless actual expected) (op.outcome actual expected)
      (co.outcome actual expected) := by
  cases pair with
  | equality =>
    rw [outcome_neq]
    exact Comparison.opposed_map_not not_false _
  | membership => exact Comparison.opposed_among actual.present expected
  | range =>
    have opposed := Comparison.opposed_ranged actual.present expected
    rw [isNumber_present] at opposed
    exact opposed
  | emptiness =>
    have denied : notEmpty.outcome actual expected = (empty.outcome actual expected).map not :=
      Comparison.result_map ..
    rw [denied]
    exact Comparison.opposed_map_not not_false _
  | presence =>
    have there : present.outcome actual expected = .ok (!actual.isMissing) := rfl
    have gone : absent.outcome actual expected = .ok actual.isMissing := rfl
    rw [there, gone]
    have opposed := Opposed.answered not_false (!actual.isMissing)
    rw [Bool.not_not] at opposed
    exact opposed

theorem Complements.not_both (pair : Complements op co) :
    ¬((op.compare actual expected).value = true ∧ (co.compare actual expected).value = true) := by
  rintro ⟨passes, passes'⟩
  have opposed := pair.opposed actual expected
  rw [passes_iff.1 passes, passes_iff.1 passes'] at opposed
  cases opposed

theorem Complements.neither_iff (pair : Complements op co) :
    ((op.compare actual expected).value = false ∧ (co.compare actual expected).value = false) ↔
      op.Senseless actual expected ∨
        (op.Abandoned actual expected ∧ co.Abandoned actual expected) := by
  have opposed := pair.opposed actual expected
  unfold Abandoned
  rw [value_compare, value_compare]
  generalize op.outcome actual expected = first at opposed
  generalize co.outcome actual expected = second at opposed
  cases opposed with
  | answered sensible passed => simp [sensible]
  | unanswered senseless => simp [senseless]
  | abandoned fault => simp

/-- **Complementary operators never both pass.**  Neither passes exactly when the question makes no
sense or both comparisons are abandoned, and a field is there or not.  A comparison itself fails
only when its operator is not to be read, with a failure of the configuration. -/
theorem complements_exclusive (actual expected : Value) :
    (∀ op co, Complements op co →
      ¬((op.compare actual expected).value = true ∧ (co.compare actual expected).value = true) ∧
      ((op.compare actual expected).value = false ∧ (co.compare actual expected).value = false ↔
        op.Senseless actual expected ∨
          op.Abandoned actual expected ∧ co.Abandoned actual expected)) ∧
    (present.compare actual expected).value = !(absent.compare actual expected).value ∧
    ∀ spelled,
      (∃ operator, ofValue? spelled = some operator ∧
        (compareBy spelled actual expected).result =
          .ok (operator.compare actual expected).value) ∨
      (ofValue? spelled = none ∧ ∃ failure,
        (compareBy spelled actual expected).result = .error failure ∧
          failure.family? = some .configuration) := by
  refine ⟨fun op co pair => ⟨pair.not_both, pair.neither_iff⟩, rfl, fun spelled => ?_⟩
  · rw [result_compareBy]
    cases ofValue? spelled with
    | some operator => exact .inl ⟨operator, rfl, rfl⟩
    | none => exact .inr ⟨rfl, _, rfl, rfl⟩

/-- A number lies in a range and so not outside it; a text is nothing to be among, so a value is
neither among it nor not. -/
theorem complements_exclusive_assorted :
    ((between.compare (.text "5") (.tuple [.int 1, .int 10])).value = true ∧
      (notBetween.compare (.text "5") (.tuple [.int 1, .int 10])).value = false) ∧
    (among.compare (.int 1) (.text "1")).value = false ∧
      (notAmong.compare (.int 1) (.text "1")).value = false := by
  have lies : (between.compare (.text "5") (.tuple [.int 1, .int 10])).value = true := by
    decide +kernel
  obtain ⟨inside, -⟩ := complements_exclusive (.text "5") (.tuple [.int 1, .int 10])
  obtain ⟨members, -⟩ := complements_exclusive (.int 1) (.text "1")
  refine ⟨⟨lies, ?_⟩, (members among notAmong .membership).2.2 (.inl nofun)⟩
  exact Bool.eq_false_iff.2 fun outside => (inside _ _ .range).1 ⟨lies, outside⟩

end Operator
end Eligibility
