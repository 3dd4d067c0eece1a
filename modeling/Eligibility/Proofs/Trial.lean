/-
# What trials come to

One law for each way to build a trial.  Events do not show in what a trial comes to, so a chain of
trials comes to what a chain of their results does.
-/

import Mathlib.Data.List.Forall2
import Eligibility.Noted

namespace Eligibility

/-- A chain returns when both its steps do. -/
theorem bind_eq_ok {ε α β : Type} {x : Except ε α} {f : α → Except ε β} {b : β} :
    (x >>= f) = .ok b ↔ ∃ a, x = .ok a ∧ f a = .ok b := by
  constructor
  · intro came
    cases x with
    | error fault => cases came
    | ok a => exact ⟨a, rfl, came⟩
  · rintro ⟨a, rfl, later⟩
    exact later

/-- Naming a fault anew makes no difference to what returns. -/
theorem mapError_eq_ok {ε φ α : Type} {f : ε → φ} {x : Except ε α} {a : α} :
    x.mapError f = .ok a ↔ x = .ok a := by
  cases x with
  | error fault => simp [Except.mapError]
  | ok b => simp [Except.mapError]

/-- A loop that collects what every item comes to returns when every item does. -/
theorem collected_eq_ok {ε α β : Type} (one : α → Except ε β) (all : List α → Except ε (List β))
    (none : all [] = .ok [])
    (more : ∀ a as, all (a :: as) = one a >>= fun b => all as >>= fun bs => .ok (b :: bs))
    {as : List α} {bs : List β} :
    all as = .ok bs ↔ List.Forall₂ (fun a b => one a = .ok b) as bs := by
  induction as generalizing bs with
  | nil =>
    rw [none]
    constructor
    · intro same
      obtain rfl := Except.ok.inj same
      exact .nil
    · rintro ⟨⟩
      rfl
  | cons a as ih =>
    rw [more]
    simp only [bind_eq_ok, ih]
    constructor
    · rintro ⟨b, came, rest, others, same⟩
      obtain rfl := Except.ok.inj same
      exact .cons came others
    · rintro (_ | ⟨came, others⟩)
      exact ⟨_, came, _, others, rfl⟩

/-- Outcomes are collected when none of them is a failure. -/
theorem mapM_id_eq_ok {ε α : Type} {outcomes : List (Except ε α)} {as : List α} :
    outcomes.mapM id = .ok as ↔ outcomes = as.map .ok := by
  rw [collected_eq_ok id (·.mapM id) rfl fun _ _ => List.mapM_cons]
  rw [← List.forall₂_eq_eq_eq, List.forall₂_map_right_iff]
  exact Iff.rfl

theorem ok_of_toOption {ε α : Type} {x : Except ε α} {a : α} (found : x.toOption = some a) :
    x = .ok a := by
  cases x with
  | error _ => cases found
  | ok b => exact congrArg Except.ok (Option.some.inj found)

theorem exists_ok_of_toOption {ε α β : Type} {x : Except ε α} {f : α → β} {b : β}
    (found : x.toOption.map f = some b) : ∃ a, x = .ok a ∧ f a = b := by
  cases x with
  | error _ => cases found
  | ok a => exact ⟨a, rfl, Option.some.inj found⟩

/-- What a chain of steps that may fail comes to. -/
theorem Noted.value_run_bind {ε α β : Type} (x : ExceptT ε Noted α) (f : α → ExceptT ε Noted β) :
    (ExceptT.run (x >>= f)).value =
      (ExceptT.run x).value >>= fun a => (ExceptT.run (f a)).value := by
  rw [ExceptT.run_bind, value_bind]
  cases (ExceptT.run x).value with
  | error fault => rfl
  | ok a => rfl

namespace Trial

variable {α β : Type}

@[simp] theorem result_pure (a : α) : (pure a : Trial α).result = .ok a := rfl

@[simp] theorem result_note (event : Event) : (note event).result = .ok () := rfl

@[simp] theorem result_throw (failure : Failure) :
    (throw failure : Trial α).result = .error failure := rfl

@[simp] theorem result_ofNoted (x : Noted α) : (ofNoted x).result = .ok x.value := rfl

@[simp] theorem result_ofExcept (x : Except Failure α) : (ofExcept x).result = x := rfl

@[simp] theorem value_attempt (x : Trial α) : x.attempt.value = x.result := rfl

theorem result_bind (x : Trial α) (f : α → Trial β) :
    (x >>= f).result = x.result >>= fun a => (f a).result :=
  Noted.value_run_bind x f

theorem result_bind_eq_ok {x : Trial α} {f : α → Trial β} {b : β} :
    (x >>= f).result = .ok b ↔ ∃ a, x.result = .ok a ∧ (f a).result = .ok b := by
  rw [result_bind, bind_eq_ok]

/-- What is noted first makes no difference. -/
theorem result_note_bind (event : Event) (f : Unit → Trial β) :
    (note event >>= f).result = (f ()).result := by
  rw [result_bind, result_note]
  rfl

/-- What is noted last makes no difference. -/
theorem result_bind_note (x : Trial α) (event : Event) :
    (x >>= fun a => note event >>= fun _ => pure a).result = x.result := by
  simp only [result_bind, result_pure]
  cases x.result with
  | error failure => rfl
  | ok a => rfl

end Trial
end Eligibility
