/-
# Actions and steps

An action on a state may fail, changes the state in either case and notes events.  What an
action has done to the state before it fails stays done.  A step is an action that fails in one
of the ways of `Failure`.
-/

import Eligibility.Noted

namespace Eligibility

/-- What an action comes to. -/
structure Outcome (ε σ α : Type) where
  result : Except ε α
  state : σ
  events : List Event := []

/-- An action on a state. -/
def Action (ε σ α : Type) : Type := σ → Outcome ε σ α

/-- An action that fails in one of the ways of `Failure`. -/
abbrev Step : Type → Type → Type := Action Failure

namespace Action

variable {ε σ τ α β : Type}

instance : Monad (Action ε σ) where
  pure a := fun s => ⟨.ok a, s, []⟩
  bind x f := fun s =>
    let first := x s
    match first.result with
    | .ok a =>
      let rest := f a first.state
      ⟨rest.result, rest.state, first.events ++ rest.events⟩
    | .error fault => ⟨.error fault, first.state, first.events⟩

@[simp] theorem pure_apply (a : α) (s : σ) : (pure a : Action ε σ α) s = ⟨.ok a, s, []⟩ := rfl

theorem bind_apply (x : Action ε σ α) (f : α → Action ε σ β) (s : σ) :
    (x >>= f) s =
      match (x s).result with
      | .ok a =>
        ⟨(f a (x s).state).result, (f a (x s).state).state,
          (x s).events ++ (f a (x s).state).events⟩
      | .error fault => ⟨.error fault, (x s).state, (x s).events⟩ := rfl

instance : LawfulMonad (Action ε σ) := .mk' _
  (fun x => by
    funext s
    show (x >>= pure) s = x s
    rw [bind_apply]
    cases h : (x s).result with
    | ok a => simp [← h]
    | error fault => simp [← h])
  (fun _ _ => rfl)
  (fun x f g => by
    funext s
    simp only [bind_apply]
    cases (x s).result with
    | error _ => rfl
    | ok a =>
      cases h : (f a (x s).state).result <;> simp [h])

/-- The state. -/
def current : Action ε σ σ := fun s => ⟨.ok s, s, []⟩

/-- Change the state. -/
def modify (f : σ → σ) : Action ε σ Unit := fun s => ⟨.ok (), f s, []⟩

/-- Change the state and tell something. -/
def ofPair (f : σ → α × σ) : Action ε σ α := fun s =>
  let (a, last) := f s
  ⟨.ok a, last, []⟩

/-- Fail. -/
def fail (fault : ε) : Action ε σ α := fun s => ⟨.error fault, s, []⟩

/-- Note an event. -/
def note (event : Event) : Action ε σ Unit := fun s => ⟨.ok (), s, [event]⟩

/-- A result, which leaves the state alone and notes nothing. -/
def ofExcept (x : Except ε α) : Action ε σ α := fun s => ⟨x, s, []⟩

/-- The result of an action, as a value. -/
def attempt {φ : Type} (x : Action ε σ α) : Action φ σ (Except ε α) := fun s =>
  let outcome := x s
  ⟨.ok outcome.result, outcome.state, outcome.events⟩

/-- Change the state after an action, whether it failed or not. -/
def ending (x : Action ε σ α) (last : σ → σ) : Action ε σ α := fun s =>
  let outcome := x s
  { outcome with state := last outcome.state }

/-- An action on a part of a larger state. -/
def within (part : τ → σ) (replace : τ → σ → τ) (x : Action ε σ α) : Action ε τ α := fun t =>
  let outcome := x (part t)
  ⟨outcome.result, replace t outcome.state, outcome.events⟩

/-- An action for every item, in order, up to the first that fails. -/
def each (f : α → Action ε σ β) : List α → Action ε σ (List β)
  | [] => pure []
  | a :: rest => do
    let b ← f a
    return b :: (← each f rest)

end Action

namespace Step

/-- A trial, which leaves the state alone. -/
def ofTrial {σ α : Type} (x : Trial α) : Step σ α := fun s =>
  let noted := x.attempt
  ⟨noted.value, s, noted.events⟩

end Step
end Eligibility
