/-
# Evaluations that overlap

An evaluation comes in two parts: the first look-up, after which it holds the lock of its key,
and the rest, which looks the key up again before it computes anything.  Between the two parts of
one evaluation anything else may happen: other evaluations begin and end, in any order, results
are dropped and time passes.  A crowd is a service with the evaluations that are between their
parts, and a turn is a move of the service or one part of an evaluation.

What holds along a run of moves holds along turns in any order (`Crowd.run_keeps`): an evaluation that
waits remembers nothing but its key.
-/

import Eligibility.Proofs.Service.Run

namespace Eligibility
namespace Service

/-- An evaluation between its two parts. -/
structure Waiting where
  criteria : Criteria
  subject : Value
  key : String

/-- A service and the evaluations between their parts. -/
structure Crowd (σ : Type) where
  service : Service σ
  waiting : List Waiting := []

/-- What happens next. -/
inductive Turn (ω : Type) where
  | move (asked : Move ω)
  | embark (criteria : Criteria) (subject : Value) (useStore? : Option Bool)
  /-- The second part of the evaluation at a place among those that wait. -/
  | conclude (place : Nat)

namespace Turn

variable {σ ω : Type}

/-- The pairs that a turn evaluates through the store. -/
def pairs (settings : Settings) : Turn ω → List (Criteria × Value)
  | .move asked => asked.pairs settings
  | .embark criteria subject useStore? =>
    (Move.evaluate (ω := ω) (some criteria) subject useStore?).pairs settings
  | .conclude _ => []

variable [Store σ] [Surroundings σ ω]

/-- Take a turn. -/
def take (settings : Settings) (crowd : Crowd σ) : Turn ω → List Answer × Crowd σ
  | .move asked =>
    let outcome := asked.step settings crowd.service
    (told outcome, { crowd with service := outcome.state })
  | .embark criteria subject useStore? =>
    let useStore := useStore?.getD settings.storeResults
    let outcome :=
      attended criteria (Service.embark settings criteria subject useStore) crowd.service
    match outcome.result with
    | .ok (.done e) => ([.result criteria subject e], { crowd with service := outcome.state })
    | .ok (.pending key) => ([], ⟨outcome.state, crowd.waiting ++ [⟨criteria, subject, key⟩]⟩)
    | .error _ => ([], { crowd with service := outcome.state })
  | .conclude place =>
    match crowd.waiting[place]? with
    | none => ([], crowd)
    | some w =>
      let outcome := attended w.criteria
        (Service.conclude settings w.criteria w.subject (.pending w.key)) crowd.service
      (Answer.results (some w.criteria) [w.subject] [outcome.result],
        ⟨outcome.state, crowd.waiting.eraseIdx place⟩)

end Turn

namespace Crowd

variable {σ ω : Type} [Store σ] [Surroundings σ ω]

/-- The answers of turns, in order, and the crowd after them. -/
def run (settings : Settings) : List (Turn ω) → Crowd σ → List Answer × Crowd σ
  | [], crowd => ([], crowd)
  | turn :: rest, crowd =>
    let taken := turn.take settings crowd
    let later := run settings rest taken.2
    (taken.1 ++ later.1, later.2)

/-- The pairs that turns evaluate through the store. -/
def pairsOf (settings : Settings) (turns : List (Turn ω)) : List (Criteria × Value) :=
  turns.flatMap (·.pairs settings)

variable {settings : Settings} {I : σ → Prop} {R : String → String → Prop}
  {P : Criteria → Value → Prop}

/-- The store is in `I`, and those that wait hold the keys of pairs in `P`. -/
structure Sound (settings : Settings) (I : σ → Prop) (P : Criteria → Value → Prop)
    (crowd : Crowd σ) : Prop where
  store : I crowd.service.store
  waiting : ∀ w ∈ crowd.waiting,
    keyOf settings w.criteria w.subject = .ok w.key ∧ P w.criteria w.subject

/-- A turn keeps a crowd sound and gives explained answers. -/
theorem sound_take (K : Store.Keeps I (IsKey settings) R (Written settings P)) {turn : Turn ω}
    (pairs : ∀ pair ∈ turn.pairs settings, P pair.1 pair.2)
    (flush : Action.Keeps I (Store.flush (σ := σ)) fun _ => True)
    (outside : ∀ event s, I s → I (Surroundings.occur event s)) {crowd : Crowd σ}
    (sound : crowd.Sound settings I P) :
    (turn.take settings crowd).2.Sound settings I P ∧
      ∀ a ∈ (turn.take settings crowd).1, a.Explained settings P R := by
  cases turn with
  | move asked =>
    obtain ⟨kept, explained⟩ :=
      keeps_step K pairs (fun _ => flush) (fun event _ => outside event) crowd.service sound.store
    exact ⟨⟨kept, sound.waiting⟩, explained_told explained⟩
  | embark criteria subject useStore? =>
    have pair : useStore?.getD settings.storeResults = true → P criteria subject :=
      fun used => pairs (criteria, subject) (by simp [Turn.pairs, Move.pairs, used])
    obtain ⟨kept, found⟩ := keeps_attended (keeps_embark K pair) crowd.service sound.store
    unfold Turn.take
    dsimp only
    split
    · next e come =>
      refine ⟨⟨kept, sound.waiting⟩, fun a member => ?_⟩
      obtain rfl := List.mem_singleton.1 member
      exact found _ come
    · next key come =>
      refine ⟨⟨kept, fun w member => ?_⟩, by simp⟩
      rcases List.mem_append.1 member with before | new
      · exact sound.waiting w before
      · obtain rfl := List.mem_singleton.1 new
        exact found _ come
    · exact ⟨⟨kept, sound.waiting⟩, by simp⟩
  | conclude place =>
    unfold Turn.take
    dsimp only
    split
    · exact ⟨sound, by simp⟩
    · next w there =>
      have come : Progress.Explained settings P R w.criteria w.subject (.pending w.key) :=
        sound.waiting w (List.mem_of_getElem? there)
      obtain ⟨kept, found⟩ := keeps_attended (keeps_conclude K come) crowd.service sound.store
      refine ⟨⟨kept, fun v member => sound.waiting v (List.mem_of_mem_eraseIdx member)⟩, ?_⟩
      exact Answer.explained_results (.cons (fun e come => found e come) .nil)

/-- **In whatever order turns come**, an invariant of the store is kept, and every answer is
explained. -/
theorem run_keeps (K : Store.Keeps I (IsKey settings) R (Written settings P)) {turns : List (Turn ω)}
    (pairs : ∀ pair ∈ pairsOf settings turns, P pair.1 pair.2)
    (flush : Action.Keeps I (Store.flush (σ := σ)) fun _ => True)
    (outside : ∀ event s, I s → I (Surroundings.occur event s)) {crowd : Crowd σ}
    (sound : crowd.Sound settings I P) :
    ∀ a ∈ (run settings turns crowd).1, a.Explained settings P R := by
  induction turns generalizing crowd with
  | nil => simp [run]
  | cons turn rest ih =>
    have split : ∀ pair, pair ∈ turn.pairs settings ∨ pair ∈ pairsOf settings rest →
        P pair.1 pair.2 := fun pair member => pairs pair (by simpa [pairsOf] using member)
    obtain ⟨kept, explained⟩ := sound_take K (fun pair member => split pair (.inl member))
      flush outside sound
    intro a member
    rcases List.mem_append.1 member with first | later
    · exact explained a first
    · exact ih (fun pair member => split pair (.inr member)) kept a later

end Crowd

end Service
end Eligibility
