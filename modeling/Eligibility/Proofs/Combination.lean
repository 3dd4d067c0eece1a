/-
# Combinations that count

Seven of the eight combinators only count.  What they come to depends on how many outcomes there are
and on how many of them are true, so the order of the outcomes makes no difference (`combine_perm`).

| combinator | passes when, of `n` outcomes, `p` are true |
| --- | --- |
| `all`, `nand` | `p = n`, and not so |
| `any`, `nor` | `0 < p`, and not so |
| `xor` | `p = 1` |
| `min` | `k ≤ p`, for the number `k` that is asked for |
| `majority` | `n < 2 p` |

So `any`, `all` and `majority` are each `min` with a number of their own
(`Combination.counting_laws`).  Only `min` needs to be told a number, and without a proper one it
fails with a fault, whatever the outcomes are (`Combination.error?_min`).
-/

import Eligibility.Combination

namespace Eligibility

/-- A combination by an expression, in which letters stand for the outcomes in order. -/
def Combination.ByExpression (combination : Value) : Prop :=
  Combinator.ofValue? combination = some .boolean

/-- **What counts outcomes does not depend on their order.** -/
theorem combine_perm {combination : Value} {flags others : List Bool}
    (counts : ¬Combination.ByExpression combination) (perm : flags.Perm others)
    (minimum expression : Value) :
    combine combination flags minimum expression =
      combine combination others minimum expression := by
  unfold combine
  split
  · next combinator found =>
    cases combinator with
    | boolean => exact absurd found counts
    | _ => simp only [Combination.reduce, perm.count_eq, perm.length_eq]
  · rfl

namespace Combination

variable {combination minimum expression : Value} {flags : List Bool} {combinator : Combinator}

/-! ### Outcomes and faults -/

/-- A combination that ended in a fault does not pass. -/
theorem not_passed_of_error? {outcome : Except Fault Bool} (faulty : error? outcome ≠ none) :
    passed outcome = false := by
  cases outcome with
  | ok flag => exact absurd rfl faulty
  | error fault => rfl

theorem combine_of_spelled (spelled : Combinator.ofValue? combination = some combinator)
    (flags : List Bool) (minimum expression : Value) :
    combine combination flags minimum expression = reduce combinator flags minimum expression := by
  rw [combine, spelled]

/-- What counts without being told a number always has an outcome. -/
theorem exists_reduce (counts : combinator ≠ .min ∧ combinator ≠ .boolean) (flags : List Bool)
    (minimum expression : Value) :
    ∃ flag, reduce combinator flags minimum expression = .ok flag := by
  cases combinator with
  | min => exact absurd rfl counts.1
  | boolean => exact absurd rfl counts.2
  | all | any | majority | nand | nor | xor => exact ⟨_, rfl⟩

/-! ### Denials -/

theorem reduce_nand :
    reduce .nand flags minimum expression =
      (reduce .all flags minimum expression).map (!·) :=
  rfl

theorem reduce_nor :
    reduce .nor flags minimum expression = (reduce .any flags minimum expression).map (!·) := by
  have opposite : (flags.count true == 0) = !decide (0 < flags.count true) := by
    rw [Bool.eq_iff_iff, beq_iff_eq, Bool.not_eq_true', decide_eq_false_iff_not]
    omega
  exact congrArg Except.ok opposite

/-- One true outcome is some true outcome. -/
theorem any_of_xor (one : reduce .xor flags minimum expression = .ok true) :
    reduce .any flags minimum expression = .ok true := by
  have count : flags.count true = 1 := by simpa using Except.ok.inj one
  exact congrArg Except.ok (decide_eq_true (count ▸ Nat.one_pos))

/-! ### A number of true outcomes -/

theorem minimum?_int {k : Int} (positive : 1 ≤ k) : minimum? (.int k) = some k.toNat :=
  if_pos positive

theorem minimum?_eq_none : minimum? minimum = none ↔ ∀ k, minimum = .int k → k < 1 := by
  cases minimum with
  | int k => simp [minimum?]
  | _ => simp [minimum?]

/-- So many true outcomes, or more. -/
theorem reduce_min {k : Int} (positive : 1 ≤ k) (flags : List Bool) (expression : Value) :
    reduce .min flags (.int k) expression = .ok (decide (k ≤ flags.count true)) := by
  have least : (k.toNat ≤ flags.count true) ↔ k ≤ flags.count true := Int.toNat_le
  simp only [reduce, minimum?_int positive, least]

/-- **Without a proper number nothing can pass**, and with one there is no fault. -/
theorem error?_min :
    error? (reduce .min flags minimum expression) =
      if minimum? minimum = none then some "MIN combination requires min_required >= 1"
      else none := by
  rw [reduce]
  cases minimum? minimum with
  | none => rfl
  | some least => rfl

theorem min_one : reduce .min flags (.int 1) expression = reduce .any flags minimum expression := by
  rw [reduce_min (Int.le_refl 1)]
  refine congrArg Except.ok (decide_eq_decide.2 ?_)
  omega

theorem min_length (some : 1 ≤ flags.length) :
    reduce .min flags (.int flags.length) expression = reduce .all flags minimum expression := by
  have most : flags.count true ≤ flags.length := List.count_le_length
  have every : decide ((flags.length : Int) ≤ flags.count true) =
      (flags.count true == flags.length) := by
    rw [Bool.eq_iff_iff, decide_eq_true_iff, beq_iff_eq]
    omega
  rw [reduce_min (by omega), every]
  rfl

theorem min_beyond {k : Int} (beyond : flags.length < k) :
    reduce .min flags (.int k) expression = .ok false := by
  have most : flags.count true ≤ flags.length := List.count_le_length
  rw [reduce_min (by omega)]
  exact congrArg Except.ok (decide_eq_false (by omega))

/-- More than half of the outcomes: half of their number, rounded down, and one more. -/
theorem majority_eq_min :
    reduce .majority flags minimum expression =
      reduce .min flags (.int (flags.length / 2 + 1)) expression := by
  rw [reduce_min (by omega)]
  refine congrArg Except.ok (decide_eq_decide.2 ?_)
  omega

/-- **The laws of the combinators that count**, however they are spelled.  None of them but `min`
has a fault.  `nand` denies `all`, `nor` denies `any`, and `xor` is a case of `any`.  `min` asks for
so many true outcomes, which becomes harder the more they are: one is `any`, their full number is
`all`, half of it and one more is `majority`, and more than there are never pass.  When the number
is no integer above zero, `min` has a fault and does not pass. -/
theorem counting_laws {word : Combinator → Value}
    (spelled : ∀ combinator, Combinator.ofValue? (word combinator) = some combinator)
    (flags : List Bool) (minimum expression : Value) :
    let outcome (combinator : Combinator) (minimum : Value) :=
      combine (word combinator) flags minimum expression
    (∀ combination, ¬ByExpression combination → ∀ others, flags.Perm others →
      combine combination flags minimum expression =
        combine combination others minimum expression) ∧
    (∀ combinator, combinator ≠ .min ∧ combinator ≠ .boolean →
      ∃ flag, outcome combinator minimum = .ok flag) ∧
    outcome .nand minimum = (outcome .all minimum).map (!·) ∧
    outcome .nor minimum = (outcome .any minimum).map (!·) ∧
    (outcome .xor minimum = .ok true → outcome .any minimum = .ok true) ∧
    (∀ k : Int, 1 ≤ k → outcome .min (.int k) = .ok (decide (k ≤ flags.count true))) ∧
    (∀ k k' : Int, 1 ≤ k' → k' ≤ k → outcome .min (.int k) = .ok true →
      outcome .min (.int k') = .ok true) ∧
    outcome .min (.int 1) = outcome .any minimum ∧
    (1 ≤ flags.length → outcome .min (.int flags.length) = outcome .all minimum) ∧
    (∀ k : Int, flags.length < k → outcome .min (.int k) = .ok false) ∧
    outcome .majority minimum = outcome .min (.int (flags.length / 2 + 1)) ∧
    ((∀ k, minimum = .int k → k < 1) → passed (outcome .min minimum) = false ∧
      error? (outcome .min minimum) = some "MIN combination requires min_required >= 1") := by
  intro outcome
  have reduces (combinator : Combinator) (minimum : Value) :
      outcome combinator minimum = reduce combinator flags minimum expression :=
    combine_of_spelled (spelled combinator) flags minimum expression
  simp only [reduces]
  refine ⟨fun combination counts others perm => combine_perm counts perm minimum expression,
    fun combinator counts => exists_reduce counts flags minimum expression, reduce_nand, reduce_nor,
    any_of_xor, fun k positive => reduce_min positive flags expression, ?harder, min_one,
    min_length, fun k => min_beyond, majority_eq_min, ?improper⟩
  case harder =>
    intro k k' positive fewer passes
    rw [reduce_min (Int.le_trans positive fewer)] at passes
    have enough : k ≤ flags.count true := of_decide_eq_true (Except.ok.inj passes)
    rw [reduce_min positive, decide_eq_true (Int.le_trans fewer enough)]
  case improper =>
    intro improper
    have fault : error? (reduce .min flags minimum expression) =
        some "MIN combination requires min_required >= 1" :=
      error?_min.trans (if_pos (minimum?_eq_none.2 improper))
    refine ⟨not_passed_of_error? ?_, fault⟩
    rw [fault]
    exact Option.some_ne_none _

/-- Spellings of the combinators, some of them unusual. -/
def spelling : Combinator → Value
  | .all => .text "AND"
  | .any => .text " or "
  | .min => .text "Min_N"
  | .boolean => .text "expression"
  | other => .text other.text

/-- Two of four outcomes are true: that is no majority, and three or even five are not there. -/
theorem counting_laws_half :
    let flags := [true, false, false, true]
    (∀ combinator, Combinator.ofValue? (spelling combinator) = some combinator) ∧
      combine (spelling .majority) flags .null .null = .ok false ∧
      combine (spelling .min) flags (.int 3) .null = .ok false ∧
      combine (spelling .min) flags (.int 5) .null = .ok false ∧
      combine (spelling .any) flags .null .null = .ok true ∧
      combine (spelling .nor) flags .null .null = .ok false ∧
      error? (combine (spelling .min) flags (.bool true) .null) =
        some "MIN combination requires min_required >= 1" := by
  intro flags
  have spelled : ∀ combinator, Combinator.ofValue? (spelling combinator) = some combinator := by
    intro combinator
    cases combinator <;> decide +kernel
  obtain ⟨-, -, -, nor, -, min, -, one, -, beyond, majority, -⟩ :=
    counting_laws spelled flags .null .null
  obtain ⟨-, -, -, -, -, -, -, -, -, -, -, improper⟩ :=
    counting_laws spelled flags (.bool true) .null
  have half : (flags.length : Int) / 2 + 1 = 3 := by decide
  rw [half] at majority
  have three : combine (spelling .min) flags (.int 3) .null = .ok false := min 3 (by decide)
  have any : combine (spelling .any) flags .null .null = .ok true :=
    one.symm.trans (min 1 (Int.le_refl 1))
  refine ⟨spelled, majority.trans three, three, beyond 5 (by decide), any, ?_, (improper nofun).2⟩
  exact nor.trans (congrArg (Except.map (!·)) any)

end Combination
end Eligibility
