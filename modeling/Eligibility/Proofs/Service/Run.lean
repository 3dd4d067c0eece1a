/-
# Runs of a service

A run is a list of moves: what callers ask of a service, and what happens to its store from
outside, such as the passing of time.  A move gives answers, each about one criteria and one
subject; a move that fails gives none, and the run goes on from the state that it left.

| move | answers |
| --- | --- |
| an evaluation, several at once | a result for every subject for which one is returned |
| a batch | an item for every subject |
| a question whether a result is stored | yes or no |
| a warm-up, anything that drops results, an event | none |

Whatever the store is, an invariant that its operations keep holds along the whole run, and every
answer is explained (`run_keeps`).
-/

import Eligibility.Proofs.Service.Keeps

namespace Eligibility
namespace Service

/-- What may happen to a store from outside. -/
class Surroundings (σ : Type) (ω : outParam Type) where
  occur : ω → σ → σ

/-- Something that is told about a criteria and a subject. -/
inductive Answer where
  | result (criteria : Criteria) (subject : Value) (result : Evaluation)
  | item (criteria : Criteria) (subject : Value) (item : BatchItem)
  /-- Whether a result is stored. -/
  | stored (criteria : Criteria) (subject : Value) (found : Bool)

/-- A step of a run. -/
inductive Move (ω : Type) where
  | evaluate (criteria? : Option Criteria) (subject : Value) (useStore? : Option Bool)
  | gather (criteria? : Option Criteria) (subjects : List Value) (useStore? : Option Bool)
  | batch (criteria? : Option Criteria) (subjects : List Value) (useStore : Bool)
  | warmUp (criteria? : Option Criteria) (subjects : List Value)
  | isStored (criteria? : Option Criteria) (subject : Value)
  | dropResult (criteria? : Option Criteria) (subject : Value)
  | dropCriteria (criteriaId : String)
  | dropAll
  | outside (event : ω)

namespace Answer

/-- The results among what evaluations for subjects came to. -/
def results (criteria? : Option Criteria) (subjects : List Value)
    (outcomes : List (Except Failure Evaluation)) : List Answer :=
  match criteria? with
  | none => []
  | some criteria => (subjects.zip outcomes).filterMap fun (subject, outcome) =>
    outcome.toOption.map (.result criteria subject)

/-- The items of subjects. -/
def items (criteria? : Option Criteria) (subjects : List Value) (told : List BatchItem) :
    List Answer :=
  match criteria? with
  | none => []
  | some criteria => (subjects.zip told).map fun (subject, told) => .item criteria subject told

/-- What is told of a result was computed or read back, and there is one when it is said so. -/
def Explained (settings : Settings) (P : Criteria → Value → Prop) (R : String → String → Prop) :
    Answer → Prop
  | .result criteria subject e => Service.Explained settings P R criteria subject e
  | .item criteria subject told => ItemOf settings P R criteria subject told
  | .stored criteria subject found => found = true →
    ∃ key value, keyOf settings criteria subject = .ok key ∧ R key value

variable {settings : Settings} {P : Criteria → Value → Prop} {R : String → String → Prop}
  {criteria : Criteria}

theorem explained_results {subjects : List Value} {outcomes : List (Except Failure Evaluation)}
    (each : List.Forall₂ (Attempted settings P R criteria) subjects outcomes) :
    ∀ a ∈ results (some criteria) subjects outcomes, a.Explained settings P R := by
  intro a member
  simp only [results, List.mem_filterMap, Prod.exists] at member
  obtain ⟨subject, outcome, pair, told⟩ := member
  cases outcome with
  | error failure => cases told
  | ok e =>
    obtain rfl : Answer.result criteria subject e = a := Option.some.inj told
    exact (List.forall₂_iff_zip.1 each).2 pair e rfl

theorem explained_items {subjects : List Value} {told : List BatchItem}
    (each : List.Forall₂ (ItemOf settings P R criteria) subjects told) :
    ∀ a ∈ items (some criteria) subjects told, a.Explained settings P R := by
  intro a member
  simp only [items, List.mem_map, Prod.exists] at member
  obtain ⟨subject, item, pair, rfl⟩ := member
  exact (List.forall₂_iff_zip.1 each).2 pair

end Answer

namespace Move

variable {σ ω : Type}

/-- The pairs that a move evaluates through the store. -/
def pairs (settings : Settings) : Move ω → List (Criteria × Value)
  | .evaluate (some criteria) subject useStore? =>
    if useStore?.getD settings.storeResults then [(criteria, subject)] else []
  | .gather (some criteria) subjects useStore? =>
    if useStore?.getD settings.storeResults then subjects.map (criteria, ·) else []
  | .batch (some criteria) subjects useStore =>
    if useStore then subjects.map (criteria, ·) else []
  | .warmUp (some criteria) subjects => subjects.map (criteria, ·)
  | _ => []

variable [Store σ] [Surroundings σ ω]

/-- Carry a move out. -/
def step (settings : Settings) : Move ω → Step (Service σ) (List Answer)
  | .evaluate criteria? subject useStore? => do
    let result ← Service.evaluate settings criteria? subject useStore?
    return Answer.results criteria? [subject] [.ok result]
  | .gather criteria? subjects useStore? => do
    return Answer.results criteria? subjects (← Service.gather settings criteria? useStore? subjects)
  | .batch criteria? subjects useStore => do
    let batch ← Service.evaluateBatch settings criteria? subjects useStore
    return Answer.items criteria? subjects batch.items
  | .warmUp criteria? subjects => do
    let _ ← Service.warmUp settings criteria? subjects
    return []
  | .isStored criteria? subject => do
    let found ← Service.isStored settings criteria? subject
    return criteria?.toList.map (.stored · subject found)
  | .dropResult criteria? subject => do
    let _ ← Service.dropResult settings criteria? subject
    return []
  | .dropCriteria criteriaId => do
    let _ ← Service.dropCriteria criteriaId
    return []
  | .dropAll => do
    let _ ← Service.dropAll
    return []
  | .outside event => do
    Action.modify fun s => { s with store := Surroundings.occur event s.store }
    return []

end Move

variable {σ ω : Type} [Store σ] [Surroundings σ ω] {settings : Settings}

/-- What a move that came to this has told. -/
def told (outcome : Outcome Failure (Service σ) (List Answer)) : List Answer :=
  outcome.result.toOption.getD []

/-- The answers of a run, in order, and the service after it. -/
def run (settings : Settings) : List (Move ω) → Service σ → List Answer × Service σ
  | [], s => ([], s)
  | move :: rest, s =>
    let outcome := move.step settings s
    let later := run settings rest outcome.state
    (told outcome ++ later.1, later.2)

/-- The pairs that a run evaluates through the store. -/
def pairsOf (settings : Settings) (moves : List (Move ω)) : List (Criteria × Value) :=
  moves.flatMap (·.pairs settings)

/-- The texts that may be found when the pairs are evaluated through the store. -/
def FoundOf (settings : Settings) (pairs : List (Criteria × Value)) (key value : String) : Prop :=
  ∃ tags, Written settings (fun criteria subject => (criteria, subject) ∈ pairs) key value tags

/-- A criteria with one rule. -/
def adults : Criteria :=
  { criteriaId := .text "adults"
    rules := [{
      ruleId := .text "age", field := "age", operator := .text ">=", expected := .int 18 }] }

/-- A subject that passes. -/
def twenty : Value := .map [(.text "age", .int 20)]

/-! ### Invariants along a run -/

variable {I : σ → Prop} {R : String → String → Prop} {P : Criteria → Value → Prop}

/-- A move gives explained answers and keeps what the operations of the store keep. -/
theorem keeps_step (K : Store.Keeps I (IsKey settings) R (Written settings P)) {move : Move ω}
    (pairs : ∀ pair ∈ move.pairs settings, P pair.1 pair.2)
    (flush : move = .dropAll → Action.Keeps I (Store.flush (σ := σ)) fun _ => True)
    (outside : ∀ event, move = .outside event → ∀ s, I s → I (Surroundings.occur event s)) :
    Action.Keeps (OfStore I) (move.step (σ := σ) settings) fun answers =>
      ∀ a ∈ answers, a.Explained settings P R := by
  have nothing : ∀ a ∈ ([] : List Answer), a.Explained settings P R := by simp
  cases move with
  | evaluate criteria? subject useStore? =>
    cases criteria? with
    | none => exact keeps_withoutCriteria.andThen fun _ => .pure nothing
    | some criteria =>
      refine (keeps_evaluate K fun used => ?_).bind fun e explained => ?_
      · exact pairs (criteria, subject) (by simp [Move.pairs, used])
      · refine .pure (Answer.explained_results ?_)
        refine .cons (fun e' eq => ?_) .nil
        obtain rfl := Except.ok.inj eq
        exact explained
  | gather criteria? subjects useStore? =>
    cases criteria? with
    | none =>
      refine Action.Keeps.andThen ?_ fun outcomes => .pure nothing
      refine (Action.Keeps.each (R := fun _ _ => True) subjects fun subject _ => ?_).trivial
      exact keeps_withoutCriteria.attempt.trivial
    | some criteria =>
      refine (keeps_gather K fun used subject member => ?_).bind fun outcomes each => ?_
      · exact pairs (criteria, subject) (by simp [Move.pairs, used, member])
      · exact .pure (Answer.explained_results each)
  | batch criteria? subjects useStore =>
    cases criteria? with
    | none => exact Action.Keeps.fail.andThen fun _ => .pure nothing
    | some criteria =>
      refine (keeps_evaluateBatch K fun used subject member => ?_).bind fun batch each => ?_
      · exact pairs (criteria, subject) (by simp [Move.pairs, used, member])
      · exact .pure (Answer.explained_items each)
  | warmUp criteria? subjects =>
    cases criteria? with
    | none => exact Action.Keeps.fail.andThen fun _ => .pure nothing
    | some criteria =>
      refine (keeps_warmUp K fun subject member => ?_).andThen fun _ => .pure nothing
      exact pairs (criteria, subject) (by simp [Move.pairs, member])
  | isStored criteria? subject =>
    cases criteria? with
    | none => exact Action.Keeps.andThen keeps_withoutKey fun _ => .pure nothing
    | some criteria =>
      refine (keeps_isStored K).bind fun found there => .pure fun a member => ?_
      simp only [Option.toList_some, List.map_cons, List.map_nil, List.mem_singleton] at member
      subst member
      exact there
  | dropResult criteria? subject =>
    cases criteria? with
    | none => exact Action.Keeps.andThen keeps_withoutKey fun _ => .pure nothing
    | some criteria => exact (keeps_dropResult K).andThen fun _ => .pure nothing
  | dropCriteria criteriaId =>
    exact (keeps_dropCriteria K criteriaId).andThen fun _ => .pure nothing
  | dropAll =>
    refine Action.Keeps.andThen ?_ fun _ => .pure nothing
    refine (keeps_inStore (flush rfl)).andThen fun count => keeps_measure.andThen fun _ => ?_
    exact Action.Keeps.note.andThen fun _ => .pure True.intro
  | outside event =>
    refine Action.Keeps.andThen (.modify fun s inv => ?_) fun _ => .pure nothing
    exact outside event rfl s.store inv

omit [Store σ] in
/-- What a move has told is explained when all that it may return is. -/
theorem explained_told {outcome : Outcome Failure (Service σ) (List Answer)}
    (explained : ∀ answers, outcome.result = .ok answers →
      ∀ a ∈ answers, a.Explained settings P R) :
    ∀ a ∈ told outcome, a.Explained settings P R := by
  intro a member
  unfold told at member
  cases came : outcome.result with
  | error failure => simp [came, Except.toOption] at member
  | ok answers =>
    rw [came] at member
    exact explained answers came a member

/-- An emptying that comes to its end leaves what the store leaves then. -/
theorem kept_of_dropAll {s : Service σ}
    (flush : ∀ count, (Store.flush s.store).result = .ok count → I (Store.flush s.store).state)
    (ended : ∃ answers, ((Move.dropAll (ω := ω)).step settings s).result = .ok answers) :
    OfStore I ((Move.dropAll (ω := ω)).step settings s).state := by
  obtain ⟨answers, ended⟩ := ended
  obtain ⟨count, dropped, -, after⟩ := Action.ok_of_bind ended
  obtain ⟨count', came, -, after'⟩ := Action.ok_of_bind dropped
  have kept : OfStore I (dropAll (σ := σ) s).state := by
    rw [dropAll, after']
    exact flush count' came
  exact after ▸ kept

/-- Every emptying of a run comes to its end. -/
def Flushed (settings : Settings) : List (Move ω) → Service σ → Prop
  | [], _ => True
  | move :: rest, s =>
    (move = .dropAll → ∃ answers, (move.step settings s).result = .ok answers) ∧
      Flushed settings rest (move.step settings s).state

/-- A move gives explained answers and keeps the invariant, when an emptying comes to its end. -/
theorem keeps_move (K : Store.Keeps I (IsKey settings) R (Written settings P)) {move : Move ω}
    (pairs : ∀ pair ∈ move.pairs settings, P pair.1 pair.2)
    (flush : ∀ s, I s → ∀ count, (Store.flush (σ := σ) s).result = .ok count →
      I (Store.flush (σ := σ) s).state)
    (outside : ∀ event, move = .outside event → ∀ s, I s → I (Surroundings.occur event s))
    {s : Service σ} (start : I s.store)
    (ended : move = .dropAll → ∃ answers, (move.step settings s).result = .ok answers) :
    OfStore I (move.step settings s).state ∧
      ∀ a ∈ told (move.step settings s), a.Explained settings P R := by
  by_cases emptying : move = .dropAll
  · subst emptying
    refine ⟨kept_of_dropAll (flush s.store start) (ended rfl), explained_told fun answers came => ?_⟩
    obtain ⟨count, -, told, -⟩ := Action.ok_of_bind came
    obtain rfl := Except.ok.inj told
    simp
  · obtain ⟨kept, explained⟩ := keeps_step K pairs (fun same => absurd same emptying) outside s start
    exact ⟨kept, explained_told explained⟩

section Runs

variable {moves : List (Move ω)} {s : Service σ}
  (K : Store.Keeps I (IsKey settings) R (Written settings P))
  (pairs : ∀ pair ∈ pairsOf settings moves, P pair.1 pair.2)
  (flush : ∀ s, I s → ∀ count, (Store.flush (σ := σ) s).result = .ok count →
    I (Store.flush (σ := σ) s).state)
  (outside : ∀ event, .outside event ∈ moves → ∀ s, I s → I (Surroundings.occur event s))
  (start : I s.store)

include K pairs flush outside start

/-- **Along a run** whose emptyings come to their end, an invariant of the store is kept, and every
answer is explained. -/
theorem run_keeps (flushed : Flushed settings moves s) :
    I (run settings moves s).2.store ∧
      ∀ a ∈ (run settings moves s).1, a.Explained settings P R := by
  induction moves generalizing s with
  | nil => exact ⟨start, by simp [run]⟩
  | cons move rest ih =>
    have first := keeps_move K (fun pair member => pairs pair (List.mem_append_left _ member))
      flush (fun event same => outside event (same ▸ List.mem_cons_self)) start flushed.1
    obtain ⟨last, later⟩ := ih (fun pair member => pairs pair (List.mem_append_right _ member))
      (fun event member => outside event (List.mem_cons_of_mem _ member)) first.1 flushed.2
    refine ⟨last, fun a member => ?_⟩
    rcases List.mem_append.1 member with here | rest
    · exact first.2 a here
    · exact later a rest

/-- Where an emptying always comes to its end, it does so along a run. -/
theorem flushed_of_always (always : ∀ s, I s → ∃ count, (Store.flush (σ := σ) s).result = .ok count) :
    Flushed settings moves s := by
  induction moves generalizing s with
  | nil => exact True.intro
  | cons move rest ih =>
    have ended : move = .dropAll → ∃ answers, (move.step settings s).result = .ok answers := by
      rintro rfl
      obtain ⟨count, came⟩ := always s.store start
      have whole : (inStore (Store.flush (σ := σ)) s).result = .ok count := came
      refine ⟨[], ?_⟩
      simp only [Move.step, dropAll, Action.bind_apply, whole]
      rfl
    have first := keeps_move K (fun pair member => pairs pair (List.mem_append_left _ member))
      flush (fun event same => outside event (same ▸ List.mem_cons_self)) start ended
    exact ⟨ended, ih (fun pair member => pairs pair (List.mem_append_right _ member))
      (fun event member => outside event (List.mem_cons_of_mem _ member)) first.1⟩

end Runs

end Service
end Eligibility
