/-
# What comparisons come to

Events do not show in what a comparison comes to.  An operator passes when its comparison comes to
*yes*; a comparison that is abandoned does not pass.
-/

import Eligibility.Comparison
import Eligibility.Proofs.Trial

namespace Eligibility
namespace Comparison

variable {α β : Type}

/-- What a comparison comes to. -/
def result (x : Comparison α) : Except Fault α := (ExceptT.run x).value

@[simp] theorem result_pure (a : α) : (pure a : Comparison α).result = .ok a := rfl

@[simp] theorem result_note (event : Event) : (note event).result = .ok () := rfl

@[simp] theorem result_ofNumber (x : Except NumberFault α) :
    (ofNumber x).result = x.mapError .number := rfl

theorem result_bind (x : Comparison α) (f : α → Comparison β) :
    (x >>= f).result = x.result >>= fun a => (f a).result :=
  Noted.value_run_bind x f

theorem result_map (f : α → β) (x : Comparison α) : (f <$> x).result = x.result.map f := by
  rw [map_eq_pure_bind, result_bind]
  cases x.result with
  | error fault => rfl
  | ok a => rfl

end Comparison

namespace Operator

variable {operator : Operator} {actual expected : Value}

/-- What the comparison of an operator comes to. -/
def outcome (operator : Operator) (actual expected : Value) : Except Comparison.Fault Bool :=
  (Comparison.carryOut operator (operator.taken actual) expected).result

/-- **An abandoned comparison does not pass**; any other passes when it comes to *yes*. -/
theorem value_compare :
    (operator.compare actual expected).value =
      match operator.outcome actual expected with
      | .ok passed => passed
      | .error _ => false := by
  rw [compare, Noted.value_bind]
  unfold outcome Comparison.result
  cases (ExceptT.run (Comparison.carryOut operator (operator.taken actual) expected)).value with
  | ok passed => rfl
  | error fault => rfl

theorem passes_iff :
    (operator.compare actual expected).value = true ↔
      operator.outcome actual expected = .ok true := by
  rw [value_compare]
  cases operator.outcome actual expected with
  | ok passed => simp
  | error fault => simp

/-- A comparison by an operator that is still to be read fails when nothing is spelled, and only
then. -/
theorem result_compareBy (spelled actual expected : Value) :
    (compareBy spelled actual expected).result =
      match ofValue? spelled with
      | some operator => .ok (operator.compare actual expected).value
      | none => .error (.unknownOperator spelled.display) := by
  rw [compareBy, Trial.result_bind, Trial.result_ofExcept, ofValue]
  cases ofValue? spelled with
  | some operator => rfl
  | none => rfl

end Operator
end Eligibility
