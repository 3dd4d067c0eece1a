/-
# Callers that wait for one another

A flight is a service with callers that evaluate subjects at the same time.  Between two look-ups of
one caller all others may go on, and so they may between its second look-up and what follows from
it; what stands between them is the lock of a key.  A lock is made by the first caller that finds
nothing under a key, and stands in a table until the first caller that held it leaves.  Those that
wait for it then still wait for it, though it stands in the table no more, so a caller that comes
later would be given another one.

| a caller that | does | and then |
| --- | --- | --- |
| is fresh | looks its key up; is given a lock when nothing is found | waits, or has ended |
| waits, while no caller holds the lock | takes the lock | holds it |
| holds the lock | looks its key up again | computes, or has ended |
| computes | runs the engine, puts the result | has ended |

Evaluations that are gathered over a store that yields go one particular way through this
(`Flight.exists_gather`).
-/

import Mathlib.Logic.Relation
import Eligibility.Proofs.Service.Lasting

namespace Eligibility
namespace Service

/-- How far a caller has come. -/
inductive Stage where
  | fresh
  /-- It waits for the lock of a number. -/
  | waiting (key : String) (lock : Nat)
  | holding (key : String) (lock : Nat)
  /-- It holds the lock, and has looked its key up again without finding anything. -/
  | computing (key : String) (lock : Nat)
  | ended (result : Except Failure Evaluation)

namespace Stage

/-- The key and the lock of a caller that has been given one. -/
def claim? : Stage → Option (String × Nat)
  | waiting key lock | holding key lock | computing key lock => some (key, lock)
  | _ => none

/-- Whether a caller holds a lock. -/
def holds (lock : Nat) : Stage → Bool
  | holding _ own | computing _ own => own == lock
  | _ => false

/-- How many turns a caller has left at most. -/
def left : Stage → Nat
  | fresh => 4
  | waiting .. => 3
  | holding .. => 2
  | computing .. => 1
  | ended _ => 0

end Stage

/-- An evaluation that has been asked for. -/
structure Caller where
  subject : Value
  stage : Stage := Stage.fresh
  /-- How often the engine was run for it. -/
  runs : Nat := 0
  /-- How many of its look-ups were answered. -/
  hits : Nat := 0

/-- A caller that has not begun. -/
def Caller.fresh (subject : Value) : Caller where
  subject := subject

/-- A caller after it changed the service. -/
def Caller.moved {σ : Type} (caller : Caller) (stage : Stage) (old new : Service σ) : Caller where
  subject := caller.subject
  stage := stage
  runs := caller.runs + (new.metrics.durationCount - old.metrics.durationCount)
  hits := caller.hits + (new.hits - old.hits)

/-- What a caller does when it leaves: it gives its lock up and reports a failure. -/
def depart {σ : Type} (key : String) (result : Except Failure Evaluation) (s : Service σ) :
    Service σ :=
  match result with
  | .ok _ => closeContext (unlock key s)
  | .error failure => closeContext (report failure (unlock key s)).state

/-- A service and its callers. -/
structure Flight (σ : Type) where
  service : Service σ
  callers : List Caller
  /-- The lock that stands for each key. -/
  table : Keyed String Nat := .empty
  /-- The number of a lock that is made now. -/
  next : Nat := 0

namespace Flight

variable {σ : Type}

/-- Callers that have not begun. -/
def start (service : Service σ) (subjects : List Value) : Flight σ where
  service := service
  callers := subjects.map .fresh

/-- The lock that is given out for a key. -/
def lockFor (f : Flight σ) (key : String) : Nat := (f.table.get? key).getD f.next

/-- The table without a lock, when it still stands for its key. -/
def without (f : Flight σ) (key : String) (lock : Nat) : Keyed String Nat :=
  if f.table.get? key = some lock then f.table.erase key else f.table

/-- Every caller has ended. -/
def Finished (f : Flight σ) : Prop := ∀ caller ∈ f.callers, ∃ result, caller.stage = .ended result

section Steps

variable [Store σ] (settings : Settings) (criteria : Criteria)

/-- The first part of an evaluation. -/
def begun (f : Flight σ) (subject : Value) : Outcome Failure (Service σ) Progress :=
  attended criteria (embark settings criteria subject true) f.service

/-- What a caller does in its turn: the stage that it comes to, the service and the table. -/
inductive Advance (f : Flight σ) (caller : Caller) :
    Stage → Service σ → Keyed String Nat → Prop
  | served {e : Evaluation} (stage : caller.stage = .fresh)
      (came : (f.begun settings criteria caller.subject).result = .ok (.done e)) :
      Advance f caller (.ended (.ok e)) (f.begun settings criteria caller.subject).state f.table
  | refused {failure : Failure} (stage : caller.stage = .fresh)
      (came : (f.begun settings criteria caller.subject).result = .error failure) :
      Advance f caller (.ended (.error failure)) (f.begun settings criteria caller.subject).state
        f.table
  | given {key : String} (stage : caller.stage = .fresh)
      (came : (f.begun settings criteria caller.subject).result = .ok (.pending key)) :
      Advance f caller (.waiting key (f.lockFor key))
        (f.begun settings criteria caller.subject).state (f.table.insert key (f.lockFor key))
  | acquired {key : String} {lock : Nat} (stage : caller.stage = .waiting key lock)
      (free : ∀ other ∈ f.callers, other.stage.holds lock = false) :
      Advance f caller (.holding key lock) (openContext criteria f.service) f.table
  | found {key : String} {lock : Nat} {e : Evaluation} (stage : caller.stage = .holding key lock)
      (came : (lookup key false f.service).result = .ok (some e)) :
      Advance f caller (.ended (.ok e)) (depart key (.ok e) (lookup key false f.service).state)
        (f.without key lock)
  | missed {key : String} {lock : Nat} (stage : caller.stage = .holding key lock)
      (came : (lookup key false f.service).result = .ok none) :
      Advance f caller (.computing key lock) (lookup key false f.service).state f.table
  | broken {key : String} {lock : Nat} {failure : Failure}
      (stage : caller.stage = .holding key lock)
      (came : (lookup key false f.service).result = .error failure) :
      Advance f caller (.ended (.error failure))
        (depart key (.error failure) (lookup key false f.service).state) (f.without key lock)
  | settled {key : String} {lock : Nat} (stage : caller.stage = .computing key lock) :
      Advance f caller (.ended (produce settings criteria caller.subject key f.service).result)
        (depart key (produce settings criteria caller.subject key f.service).result
          (produce settings criteria caller.subject key f.service).state) (f.without key lock)

variable (steady : σ → σ → Prop)

/-- One caller has its turn, or something happens to the store from outside. -/
inductive Step : Flight σ → Flight σ → Prop
  | turn {f : Flight σ} {before after : List Caller} {caller : Caller} {stage : Stage}
      {service : Service σ} {table : Keyed String Nat}
      (among : f.callers = before ++ caller :: after)
      (advance : f.Advance settings criteria caller stage service table) :
      Step f ⟨service, before ++ caller.moved stage f.service service :: after, table, f.next + 1⟩
  | outside {f : Flight σ} {store : σ} (happened : steady f.service.store store) :
      Step f { f with service := { f.service with store } }

/-- Any number of steps. -/
def Reaches : Flight σ → Flight σ → Prop := Relation.ReflTransGen (Step settings criteria steady)

end Steps

variable [Store σ] (settings : Settings) (criteria : Criteria) (steady : σ → σ → Prop)
  {f : Flight σ} {caller : Caller}

/-! ### Nobody is stuck -/

/-- A caller that does not wait and has not ended can have its turn. -/
theorem exists_advance (under : caller.stage.left ≠ 0)
    (ready : ∀ key lock, caller.stage = .waiting key lock →
      ∀ other ∈ f.callers, other.stage.holds lock = false) :
    ∃ stage service table, f.Advance settings criteria caller stage service table ∧
      stage.left < caller.stage.left := by
  cases stage : caller.stage with
  | fresh =>
    cases came : (f.begun settings criteria caller.subject).result with
    | error failure => exact ⟨_, _, _, .refused stage came, by simp [Stage.left]⟩
    | ok progress =>
      cases progress with
      | done e => exact ⟨_, _, _, .served stage came, by simp [Stage.left]⟩
      | pending key => exact ⟨_, _, _, .given stage came, by simp [Stage.left]⟩
  | waiting key lock =>
    exact ⟨_, _, _, .acquired stage (ready key lock stage), by simp [Stage.left]⟩
  | holding key lock =>
    cases came : (lookup key false f.service).result with
    | error failure => exact ⟨_, _, _, .broken stage came, by simp [Stage.left]⟩
    | ok found? =>
      cases found? with
      | none => exact ⟨_, _, _, .missed stage came, by simp [Stage.left]⟩
      | some e => exact ⟨_, _, _, .found stage came, by simp [Stage.left]⟩
  | computing key lock => exact ⟨_, _, _, .settled stage, by simp [Stage.left]⟩
  | ended result =>
    rw [stage] at under
    exact absurd rfl under

/-- How many turns are left at most. -/
def left (f : Flight σ) : Nat := (f.callers.map fun caller => caller.stage.left).sum

/-- A flight that is not finished goes on, and comes closer to its end. -/
theorem exists_step (unfinished : ¬f.Finished) :
    ∃ f', Step settings criteria steady f f' ∧ f'.left < f.left := by
  obtain ⟨caller, member, under, ready⟩ : ∃ caller ∈ f.callers, caller.stage.left ≠ 0 ∧
      ∀ key lock, caller.stage = .waiting key lock →
        ∀ other ∈ f.callers, other.stage.holds lock = false := by
    by_cases held : ∃ holder ∈ f.callers, ∃ lock, holder.stage.holds lock = true
    · obtain ⟨holder, member, lock, holds⟩ := held
      refine ⟨holder, member, ?_, fun key lock stage => ?_⟩
      · cases stage : holder.stage <;> simp_all [Stage.holds, Stage.left]
      · rw [stage] at holds
        cases holds
    · push Not at held
      unfold Finished at unfinished
      push Not at unfinished
      obtain ⟨caller, member, under⟩ := unfinished
      refine ⟨caller, member, ?_, fun _ lock _ other member => ?_⟩
      · cases stage : caller.stage with
        | ended result => exact absurd stage (under result)
        | _ => simp [Stage.left]
      · simpa using held other member lock
  obtain ⟨stage, service, table, advance, closer⟩ :=
    exists_advance settings criteria (f := f) under ready
  obtain ⟨before, after, among⟩ := List.append_of_mem member
  refine ⟨_, .turn among advance, ?_⟩
  have moved : (caller.moved stage f.service service).stage = stage := rfl
  simp only [left, among, List.map_append, List.map_cons, List.sum_append, List.sum_cons, moved]
  omega

/-- **Every flight can be brought to its end**, wherever it stands. -/
theorem exists_finished (f : Flight σ) :
    ∃ f', Reaches settings criteria steady f f' ∧ f'.Finished := by
  induction many : f.left using Nat.strong_induction_on generalizing f with
  | _ n ih =>
    by_cases finished : f.Finished
    · exact ⟨f, .refl, finished⟩
    · obtain ⟨f', step, closer⟩ := exists_step settings criteria steady finished
      obtain ⟨f'', more, finished'⟩ := ih f'.left (many ▸ closer) f' rfl
      exact ⟨f'', .head step more, finished'⟩

/-! ### Gathered evaluations -/

/-- The rest of an evaluation settles its key and leaves. -/
theorem attended_conclude (subject : Value) (key : String) (s : Service σ) :
    let settled := settle settings criteria subject key (openContext criteria s)
    (attended criteria (conclude settings criteria subject (.pending key)) s).result =
        settled.result ∧
      (attended criteria (conclude settings criteria subject (.pending key)) s).state =
        depart key settled.result settled.state := by
  intro settled
  obtain ⟨result, state⟩ :=
    attended_apply criteria (conclude settings criteria subject (.pending key)) s
  have ended : conclude settings criteria subject (.pending key) (openContext criteria s) =
      { settled with state := unlock key settled.state } := rfl
  rw [ended] at result state
  refine ⟨result, state.trans ?_⟩
  unfold depart
  dsimp only
  cases settled.result <;> rfl

/-- Nobody holds a lock. -/
def Idle (f : Flight σ) : Prop := ∀ caller ∈ f.callers, ∀ lock, caller.stage.holds lock = false

omit [Store σ] in
/-- Another caller in one's place. -/
theorem Idle.replace {f' : Flight σ} (idle : f.Idle) {before after : List Caller}
    {caller caller' : Caller} (among : f.callers = before ++ caller :: after)
    (among' : f'.callers = before ++ caller' :: after)
    (new : ∀ lock, caller'.stage.holds lock = false) : f'.Idle := by
  intro other member
  simp only [Idle, among, among', List.mem_append, List.mem_cons] at idle member
  rcases member with earlier | rfl | later
  · exact idle other (.inl earlier)
  · exact new
  · exact idle other (.inr (.inr later))

omit [Store σ] in
theorem idle_start (service : Service σ) (subjects : List Value) :
    (start service subjects).Idle := by
  intro caller member lock
  obtain ⟨subject, -, rfl⟩ := List.mem_map.1 member
  rfl

/-- A caller that waits, while nobody holds a lock, concludes its evaluation in its next turns. -/
theorem reaches_concluded {before after : List Caller} {key : String} {lock : Nat}
    (among : f.callers = before ++ caller :: after) (stage : caller.stage = .waiting key lock)
    (idle : f.Idle) :
    let concluded := attended criteria
      (conclude settings criteria caller.subject (.pending key)) f.service
    ∃ f', Reaches settings criteria steady f f' ∧ f'.service = concluded.state ∧
      ∃ caller', f'.callers = before ++ caller' :: after ∧
        caller'.stage = .ended concluded.result := by
  intro concluded
  obtain ⟨result, state⟩ := attended_conclude settings criteria caller.subject key f.service
  let opened := openContext criteria f.service
  let holding := caller.moved (.holding key lock) f.service opened
  let taken : Flight σ := ⟨opened, before ++ holding :: after, f.table, f.next + 1⟩
  have take : Step settings criteria steady f taken :=
    .turn among (.acquired stage fun other member => idle other member lock)
  rw [settle_eq, Action.bind_apply] at result state
  cases came : (lookup key false opened).result with
  | error failure =>
    rw [came] at result state
    have leave : Step settings criteria steady taken _ := .turn rfl (.broken rfl came)
    exact ⟨_, .head take (.single leave), state.symm, _, rfl, congrArg Stage.ended result.symm⟩
  | ok found? =>
    cases found? with
    | some e =>
      rw [came] at result state
      have leave : Step settings criteria steady taken _ := .turn rfl (.found rfl came)
      exact ⟨_, .head take (.single leave), state.symm, _, rfl,
        congrArg Stage.ended result.symm⟩
    | none =>
      rw [came] at result state
      let service := (lookup key false opened).state
      let computing := holding.moved (.computing key lock) opened service
      let missed : Flight σ := ⟨service, before ++ computing :: after, f.table, f.next + 1 + 1⟩
      have miss : Step settings criteria steady taken missed := .turn rfl (.missed rfl came)
      have leave : Step settings criteria steady missed _ := .turn rfl (.settled rfl)
      exact ⟨_, .head take (.head miss (.single leave)), state.symm, _, rfl,
        congrArg Stage.ended result.symm⟩

/-- A caller after the first part of its evaluation came to this. -/
structure Embarked (part : Value × Except Failure Progress) (caller : Caller) : Prop where
  subject : caller.subject = part.1
  stage : match part.2 with
    | .ok (.done e) => caller.stage = .ended (.ok e)
    | .ok (.pending key) => ∃ lock, caller.stage = .waiting key lock
    | .error failure => caller.stage = .ended (.error failure)

theorem Embarked.idle {part : Value × Except Failure Progress} (embarked : Embarked part caller)
    (lock : Nat) : caller.stage.holds lock = false := by
  obtain ⟨subject, progress⟩ := part
  have stage := embarked.stage
  match progress with
  | .ok (.done e) =>
    rw [show caller.stage = _ from stage]
    rfl
  | .error failure =>
    rw [show caller.stage = _ from stage]
    rfl
  | .ok (.pending key) =>
    obtain ⟨own, waits⟩ := stage
    rw [waits]
    rfl

/-- A fresh caller has its first turn. -/
theorem exists_embarked {before after : List Caller} {subject : Value}
    (among : f.callers = before ++ .fresh subject :: after) :
    ∃ f' caller, Step settings criteria steady f f' ∧
      f'.service = (f.begun settings criteria subject).state ∧
      f'.callers = before ++ caller :: after ∧
      Embarked (subject, (f.begun settings criteria subject).result) caller := by
  cases came : (f.begun settings criteria subject).result with
  | error failure => exact ⟨_, _, .turn among (.refused rfl came), rfl, rfl, ⟨rfl, rfl⟩⟩
  | ok progress =>
    cases progress with
    | done e => exact ⟨_, _, .turn among (.served rfl came), rfl, rfl, ⟨rfl, rfl⟩⟩
    | pending key => exact ⟨_, _, .turn among (.given rfl came), rfl, rfl, ⟨rfl, _, rfl⟩⟩

/-- Fresh callers have their first turns one after another. -/
theorem reaches_embarkAll (subjects : List Value) (before : List Caller)
    (among : f.callers = before ++ subjects.map .fresh) (idle : f.Idle) :
    let embarked := embarkAll settings criteria true subjects f.service
    ∃ f' parts callers, Reaches settings criteria steady f f' ∧
      embarked.result = .ok parts ∧ f'.service = embarked.state ∧
      f'.callers = before ++ callers ∧ List.Forall₂ Embarked parts callers ∧ f'.Idle := by
  induction subjects generalizing f before with
  | nil => exact ⟨f, [], [], .refl, rfl, rfl, among, .nil, idle⟩
  | cons subject rest ih =>
    obtain ⟨f₁, caller, step, service₁, callers₁, first⟩ :=
      exists_embarked settings criteria steady among
    obtain ⟨f₂, parts, callers, more, result, service₂, callers₂, others, idle₂⟩ :=
      ih (before ++ [caller]) (f := f₁) (by rw [callers₁, List.append_assoc]; rfl)
        (idle.replace among callers₁ first.idle)
    rw [service₁] at result service₂
    obtain ⟨all, left⟩ := Action.each_of_ok (f := fun subject => do
      return (subject, ← (attended criteria (embark settings criteria subject true)).attempt))
      (a := subject) (s := f.service) rfl result
    refine ⟨f₂, _, caller :: callers, .head step more, all, service₂.trans left.symm, ?_,
      .cons first others, idle₂⟩
    rw [callers₂, List.append_assoc]
    rfl

/-- A caller concludes what its first part came to. -/
theorem reaches_concludeOne {part : Value × Except Failure Progress}
    (embarked : Embarked part caller) {before after : List Caller}
    (among : f.callers = before ++ caller :: after) (idle : f.Idle) :
    let concluded := concludeOne settings criteria part f.service
    ∃ f' caller' result, Reaches settings criteria steady f f' ∧
      concluded.result = .ok result ∧ f'.service = concluded.state ∧
      f'.callers = before ++ caller' :: after ∧ caller'.stage = .ended result := by
  obtain ⟨subject, progress⟩ := part
  obtain rfl := embarked.subject
  have stage := embarked.stage
  match progress with
  | .ok (.done e) => exact ⟨f, caller, _, .refl, rfl, rfl, among, stage⟩
  | .error failure => exact ⟨f, caller, _, .refl, rfl, rfl, among, stage⟩
  | .ok (.pending key) =>
    obtain ⟨lock, waits⟩ := stage
    obtain ⟨f', reached, service, caller', callers, ended⟩ :=
      reaches_concluded settings criteria steady among waits idle
    exact ⟨f', caller', _, reached, rfl, service, callers, ended⟩

/-- Callers that have had their first turns conclude one after another. -/
theorem reaches_concludeAll {parts : List (Value × Except Failure Progress)}
    {callers : List Caller} (embarked : List.Forall₂ Embarked parts callers)
    (before : List Caller) (among : f.callers = before ++ callers) (idle : f.Idle) :
    let concluded := Action.each (concludeOne settings criteria) parts f.service
    ∃ f' results last, Reaches settings criteria steady f f' ∧
      concluded.result = .ok results ∧ f'.service = concluded.state ∧
      f'.callers = before ++ last ∧ last.map (·.stage) = results.map .ended := by
  induction embarked generalizing f before with
  | nil => exact ⟨f, [], [], .refl, rfl, rfl, among, rfl⟩
  | @cons part caller parts callers first others ih =>
    obtain ⟨f₁, caller', result₁, reached, came, service₁, callers₁, ended⟩ :=
      reaches_concludeOne settings criteria steady first among idle
    have idle₁ : f₁.Idle := idle.replace among callers₁ fun lock => by rw [ended]; rfl
    obtain ⟨f₂, results, last, more, result, service₂, callers₂, stages⟩ :=
      ih (before ++ [caller']) (f := f₁) (by rw [callers₁, List.append_assoc]; rfl) idle₁
    rw [service₁] at result service₂
    obtain ⟨all, left⟩ := Action.each_of_ok came result
    refine ⟨f₂, _, caller' :: last, reached.trans more, all, service₂.trans left.symm, ?_, ?_⟩
    · rw [callers₂, List.append_assoc]
      rfl
    · rw [List.map_cons, List.map_cons, ended, stages]

/-- Evaluations that are gathered over a store that yields are a flight that has come to its end. -/
theorem exists_gather (service : Service σ) (yields : Store.yields service.store = true)
    {useStore? : Option Bool} (through : useStore?.getD settings.storeResults = true)
    (subjects : List Value) :
    let gathered := gather settings (some criteria) useStore? subjects service
    ∃ f results, Reaches settings criteria steady (start service subjects) f ∧
      gathered.result = .ok results ∧ f.service = gathered.state ∧
      f.callers.map (·.stage) = results.map .ended := by
  obtain ⟨f₁, parts, callers, begun, result₁, service₁, callers₁, embarked, idle₁⟩ :=
    reaches_embarkAll settings criteria steady (f := start service subjects) subjects [] rfl
      (idle_start service subjects)
  obtain ⟨f₂, results, last, ended, result₂, service₂, callers₂, stages⟩ :=
    reaches_concludeAll settings criteria steady embarked [] callers₁ idle₁
  rw [service₁] at result₂ service₂
  change (embarkAll settings criteria true subjects service).result = _ at result₁
  intro gathered
  have together : gathered = gatherTogether settings criteria true subjects service := by
    change gather settings (some criteria) useStore? subjects service = _
    unfold gather
    dsimp only
    rw [Action.bind_apply]
    dsimp only [Action.current]
    rw [if_pos yields, through]
    rfl
  rw [gatherTogether, Action.bind_apply, result₁] at together
  rw [together]
  exact ⟨f₂, results, begun.trans ended, result₂, service₂, callers₂ ▸ stages⟩

end Flight
end Service
end Eligibility
