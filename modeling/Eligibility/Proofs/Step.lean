/-
# Invariants of actions

An action keeps an invariant (`Action.Keeps`) when it leaves the invariant behind wherever it
found it, whether the action fails or not; what it returns, when it returns, is described by a
second predicate.  There is one rule for each way to build an action.
-/

import Mathlib.Data.List.Forall2
import Eligibility.Step

namespace Eligibility
namespace Action

variable {ε φ σ τ α β : Type} {I : σ → Prop} {Q : α → Prop} {R : β → Prop}

/-- The action keeps `I`, and what it returns is in `Q`. -/
def Keeps (I : σ → Prop) (x : Action ε σ α) (Q : α → Prop) : Prop :=
  ∀ s, I s → I (x s).state ∧ ∀ a, (x s).result = .ok a → Q a

/-- What a chain returns comes from what its first action returns. -/
theorem ok_of_bind {x : Action ε σ α} {f : α → Action ε σ β} {s : σ} {b : β}
    (came : ((x >>= f) s).result = .ok b) :
    ∃ a, (x s).result = .ok a ∧ (f a (x s).state).result = .ok b ∧
      ((x >>= f) s).state = (f a (x s).state).state := by
  rw [bind_apply] at came ⊢
  cases eq : (x s).result with
  | error fault =>
    rw [eq] at came
    cases came
  | ok a =>
    rw [eq] at came
    exact ⟨a, rfl, came, rfl⟩

theorem result_bind {x : Action ε σ α} {f : α → Action ε σ β} {s : σ} {a : α}
    (came : (x s).result = .ok a) : ((x >>= f) s).result = (f a (x s).state).result := by
  rw [bind_apply, came]

theorem bind_of_eq_ok {x : Action ε σ α} {f : α → Action ε σ β} {s t : σ} {a : α}
    {events : List Event} (came : x s = ⟨.ok a, t, events⟩) :
    (x >>= f) s = ⟨(f a t).result, (f a t).state, events ++ (f a t).events⟩ := by
  rw [bind_apply, came]

theorem bind_of_eq_error {x : Action ε σ α} {f : α → Action ε σ β} {s t : σ} {fault : ε}
    {events : List Event} (came : x s = ⟨.error fault, t, events⟩) :
    (x >>= f) s = ⟨.error fault, t, events⟩ := by
  rw [bind_apply, came]

theorem result_bind_error {x : Action ε σ α} {f : α → Action ε σ β} {s : σ} {fault : ε}
    (came : (x s).result = .error fault) : ((x >>= f) s).result = .error fault := by
  rw [bind_apply, came]

/-- What a chain comes to, when the state makes no difference to what its rest comes to. -/
theorem result_bind_of_steady {x : Action ε σ α} {f : α → Action ε σ β} {r : α → Except ε β}
    (steady : ∀ a t, (f a t).result = r a) (s : σ) :
    ((x >>= f) s).result = (x s).result >>= r := by
  rw [bind_apply]
  cases (x s).result with
  | error fault => rfl
  | ok a => exact steady a _

/-- What items come to one after another, when the state makes no difference. -/
theorem result_each_of_steady {f : α → Action ε σ β} {r : α → Except ε β}
    (steady : ∀ a t, (f a t).result = r a) (items : List α) (s : σ) :
    (each f items s).result = items.mapM r := by
  induction items generalizing s with
  | nil => rfl
  | cons a rest ih =>
    rw [each, List.mapM_cons, ← steady a s]
    refine result_bind_of_steady (fun b t => ?_) s
    rw [← ih t]
    exact result_bind_of_steady (r := fun bs => .ok (b :: bs)) (fun _ _ => rfl) t

/-- Items one after another, when nothing fails. -/
theorem each_of_ok {f : α → Action ε σ β} {a : α} {rest : List α} {s : σ} {b : β} {bs : List β}
    (first : (f a s).result = .ok b) (later : (each f rest (f a s).state).result = .ok bs) :
    (each f (a :: rest) s).result = .ok (b :: bs) ∧
      (each f (a :: rest) s).state = (each f rest (f a s).state).state := by
  rw [each, bind_apply, first]
  dsimp only
  rw [bind_apply, later]
  exact ⟨rfl, rfl⟩

namespace Keeps

theorem pure {a : α} (h : Q a) : Keeps (ε := ε) I (Pure.pure a) Q := by
  intro s inv
  refine ⟨inv, fun b eq => ?_⟩
  obtain rfl := Except.ok.inj eq
  exact h

theorem bind {x : Action ε σ α} {f : α → Action ε σ β} (first : Keeps I x Q)
    (rest : ∀ a, Q a → Keeps I (f a) R) : Keeps I (x >>= f) R := by
  intro s inv
  obtain ⟨kept, found⟩ := first s inv
  rw [bind_apply]
  cases eq : (x s).result with
  | error fault => exact ⟨kept, fun b no => by cases no⟩
  | ok a => exact rest a (found a eq) _ kept

theorem weaken {x : Action ε σ α} {Q' : α → Prop} (h : Keeps I x Q) (imp : ∀ a, Q a → Q' a) :
    Keeps I x Q' :=
  fun s inv => ⟨(h s inv).1, fun a eq => imp a ((h s inv).2 a eq)⟩

theorem trivial {x : Action ε σ α} (h : Keeps I x Q) : Keeps I x fun _ => True :=
  h.weaken fun _ _ => True.intro

/-- For an action that is followed by more, whatever it returns. -/
theorem andThen {x : Action ε σ α} {f : α → Action ε σ β} (first : Keeps I x fun _ => True)
    (rest : ∀ a, Keeps I (f a) R) : Keeps I (x >>= f) R :=
  first.bind fun a _ => rest a

theorem modify {f : σ → σ} (h : ∀ s, I s → I (f s)) :
    Keeps (ε := ε) I (Action.modify f) fun _ => True :=
  fun s inv => ⟨h s inv, fun _ _ => True.intro⟩

theorem note {event : Event} : Keeps (ε := ε) I (Action.note event) fun _ => True :=
  fun _ inv => ⟨inv, fun _ _ => True.intro⟩

theorem current : Keeps (ε := ε) I Action.current I := by
  intro s inv
  refine ⟨inv, fun t eq => ?_⟩
  obtain rfl := Except.ok.inj eq
  exact inv

theorem fail {fault : ε} : Keeps I (Action.fail fault) Q :=
  fun _ inv => ⟨inv, fun a no => by cases no⟩

theorem ofExcept {x : Except ε α} : Keeps I (Action.ofExcept x) fun a => x = .ok a :=
  fun _ inv => ⟨inv, fun _ eq => eq⟩

theorem ofPair {f : σ → α × σ} (h : ∀ s, I s → I (f s).2 ∧ Q (f s).1) :
    Keeps (ε := ε) I (Action.ofPair f) Q := by
  intro s inv
  obtain ⟨kept, found⟩ := h s inv
  refine ⟨kept, fun a eq => ?_⟩
  obtain rfl : (f s).1 = a := Except.ok.inj eq
  exact found

theorem attempt {x : Action ε σ α} (h : Keeps I x Q) :
    Keeps (ε := φ) I x.attempt fun result => ∀ a, result = .ok a → Q a := by
  intro s inv
  obtain ⟨kept, found⟩ := h s inv
  refine ⟨kept, fun result eq => ?_⟩
  obtain rfl : (x s).result = result := Except.ok.inj eq
  exact found

theorem ending {x : Action ε σ α} {last : σ → σ} (h : Keeps I x Q) (keeps : ∀ s, I s → I (last s)) :
    Keeps I (x.ending last) Q :=
  fun s inv => ⟨keeps _ (h s inv).1, (h s inv).2⟩

theorem within {part : τ → σ} {replace : τ → σ → τ} (same : ∀ t s, part (replace t s) = s)
    {x : Action ε σ α} (h : Keeps I x Q) :
    Keeps (fun t => I (part t)) (Action.within part replace x) Q := by
  intro t inv
  obtain ⟨kept, found⟩ := h (part t) inv
  refine ⟨?_, found⟩
  show I (part (replace t (x (part t)).state))
  rw [same]
  exact kept

/-- What is returned for items that come from elsewhere, one by one. -/
theorem eachOf {γ : Type} {f : α → Action ε σ β} {S : γ → α → Prop} {R : γ → β → Prop}
    (h : ∀ c a, S c a → Keeps I (f a) (R c)) {origins : List γ} {items : List α}
    (related : List.Forall₂ S origins items) :
    Keeps I (Action.each f items) (List.Forall₂ R origins) := by
  induction related with
  | nil => exact pure .nil
  | cons first later ih =>
    refine (h _ _ first).bind fun b found => ?_
    exact ih.bind fun bs rest => pure (.cons found rest)

/-- What is returned for the items, one by one. -/
theorem each {f : α → Action ε σ β} {R : α → β → Prop} (items : List α)
    (h : ∀ a ∈ items, Keeps I (f a) (R a)) :
    Keeps I (Action.each f items) (List.Forall₂ R items) := by
  refine eachOf (S := fun a b => a = b ∧ b ∈ items) ?_
    (List.forall₂_same.2 fun a member => ⟨rfl, member⟩)
  rintro a _ ⟨rfl, member⟩
  exact h a member

end Keeps

end Action

namespace Step

variable {σ α : Type} {I : σ → Prop}

theorem keeps_ofTrial {x : Trial α} :
    Action.Keeps I (Step.ofTrial x) fun a => x.result = .ok a :=
  fun _ inv => ⟨inv, fun _ eq => eq⟩

end Step
end Eligibility
