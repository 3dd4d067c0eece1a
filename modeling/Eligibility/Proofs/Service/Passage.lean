/-
# What a service goes through

Whatever is asked of a service, it goes through a sequence of small passages: whole evaluations,
the two parts of evaluations that overlap, and changes that no count of evaluations shows
(`Passes`).  A batch, a warm-up and evaluations that are gathered are such sequences
(`passes_move`), and so is every turn of a crowd (`passes_take`).  So a law about counts has to be
shown for the small passages alone.

Along a sequence two things are written down: the calls that came to an end, each with its criteria,
its subject and whether it returned, and how many more evaluations wait at the end than at the
beginning.
-/

import Mathlib.Algebra.Order.Group.Multiset
import Eligibility.Proofs.Service.Overlap
import Eligibility.Proofs.Service.Tally

namespace Eligibility

/-- The operations that a service tends its store with do not bring `I` about: where it holds, it
has held before. -/
structure Store.Tended {σ : Type} [Store σ] (I : σ → Prop) : Prop where
  delete : ∀ key s, I (Store.delete (σ := σ) key s).state → I s
  holds : ∀ key s, I (Store.holds (σ := σ) key s).state → I s
  dropTag : ∀ tag s, I (Store.dropTag (σ := σ) tag s).state → I s
  flush : ∀ s, I (Store.flush (σ := σ) s).state → I s

namespace Service

/-- An evaluation that came to an end. -/
structure Call where
  criteria : Criteria
  subject : Value
  returned : Bool

namespace Call

/-- The call of an evaluation that came to this. -/
def of {α : Type} (criteria : Criteria) (subject : Value) (outcome : Except Failure α) : Call :=
  ⟨criteria, subject, outcome.isOk⟩

@[simp] theorem of_ok {α : Type} (criteria : Criteria) (subject : Value) (a : α) :
    of criteria subject (.ok a) = ⟨criteria, subject, true⟩ := rfl

@[simp] theorem of_error {α : Type} (criteria : Criteria) (subject : Value) (failure : Failure) :
    of (α := α) criteria subject (.error failure) = ⟨criteria, subject, false⟩ := rfl

/-- The call of an evaluation whose first part came to this, unless it waits. -/
def ofBegun (criteria : Criteria) (subject : Value) : Except Failure Progress → List Call
  | .ok (.done _) => [⟨criteria, subject, true⟩]
  | .ok (.pending _) => []
  | .error _ => [⟨criteria, subject, false⟩]

/-- The call behind an item of a batch. There is none when the subject failed before. -/
def ofItem (criteria : Criteria) (subject : Value) : Except Failure BatchItem → List Call
  | .ok item => [⟨criteria, subject, item.result.isSome⟩]
  | .error _ => []

/-- The call of a warm-up that came to this. -/
def ofWarm (criteria : Criteria) (subject : Value) (outcome : Except Failure Bool) : Call :=
  ⟨criteria, subject, outcome.toOption.getD false⟩

end Call

/-- How many evaluations wait after a first part that came to this. -/
def waits : Except Failure Progress → ℤ
  | .ok (.pending _) => 1
  | _ => 0

variable {σ α β : Type}

/-- An action counts nothing, and where `I` holds of the store afterwards, it has held before. -/
def Quiet (I : σ → Prop) (x : Step (Service σ) α) : Prop :=
  ∀ s, tally (x s).state = tally s ∧ (I (x s).state.store → I s.store)

namespace Quiet

variable {I : σ → Prop}

theorem pure {a : α} : Quiet I (Pure.pure a) := fun _ => ⟨rfl, id⟩

theorem ofExcept {x : Except Failure α} : Quiet I (Action.ofExcept x) := fun _ => ⟨rfl, id⟩

theorem fail {failure : Failure} : Quiet (α := α) I (Action.fail failure) := fun _ => ⟨rfl, id⟩

theorem note {event : Event} : Quiet I (Action.note event) := fun _ => ⟨rfl, id⟩

theorem current : Quiet I Action.current := fun _ => ⟨rfl, id⟩

theorem inStore {x : Step σ α} (held : ∀ s, I (x s).state → I s) : Quiet I (inStore x) :=
  fun s => ⟨rfl, held s.store⟩

/-- Anything may be measured but evaluations and look-ups. -/
theorem measure {c : Counter} (other : c ∉ [Counter.hits, .misses, .evaluations])
    (values : Metrics → List String) :
    Quiet I (measure fun m => m.increment c (values m)) :=
  fun s => ⟨tally_increment other (values s.metrics) s, id⟩

theorem bind {x : Step (Service σ) α} {f : α → Step (Service σ) β} (first : Quiet I x)
    (rest : ∀ a, Quiet I (f a)) : Quiet I (x >>= f) := by
  intro s
  obtain ⟨same, held⟩ := first s
  rw [Action.bind_apply]
  cases (x s).result with
  | error failure => exact ⟨same, held⟩
  | ok a =>
    obtain ⟨later, kept⟩ := rest a (x s).state
    exact ⟨later.trans same, held ∘ kept⟩

theorem attempt {x : Step (Service σ) α} (quiet : Quiet I x) :
    Quiet I (x.attempt (φ := Failure)) := quiet

theorem each {f : α → Step (Service σ) β} (one : ∀ a, Quiet I (f a)) {items : List α} :
    Quiet I (Action.each f items) := by
  induction items with
  | nil => exact pure
  | cons a rest ih => exact (one a).bind fun b => ih.bind fun bs => pure

end Quiet

variable [Store σ]

/-- A service passes from one state to another: evaluations use the store or do not, and overlap
only when `together` holds. -/
inductive Passes (settings : Settings) (I : σ → Prop) (useStore : Bool) (together : Prop) :
    Service σ → Service σ → Multiset Call → ℤ → Prop
  /-- Nothing that happens is counted. -/
  | quiet {s t : Service σ} (same : tally t = tally s) (held : I t.store → I s.store) :
      Passes settings I useStore together s t 0 0
  | evaluate {criteria : Criteria} {subject : Value} {useStore? : Option Bool} {s : Service σ}
      (used : useStore?.getD settings.storeResults = useStore) :
      Passes settings I useStore together s
        (evaluate settings (some criteria) subject useStore? s).state
        {.of criteria subject (evaluate settings (some criteria) subject useStore? s).result} 0
  /-- A subject of a batch past the store. -/
  | item {criteria : Criteria} {subject : Value} {s : Service σ} (past : useStore = false) :
      Passes settings I useStore together s (evaluateItem settings criteria false subject s).state
        {.of criteria subject (evaluateItem settings criteria false subject s).result} 0
  /-- The first part of an evaluation. -/
  | embark {criteria : Criteria} {subject : Value} {s : Service σ} (overlaps : together) :
      Passes settings I useStore together s
        (attended criteria (embark settings criteria subject useStore) s).state
        (Call.ofBegun criteria subject
          (attended criteria (embark settings criteria subject useStore) s).result)
        (waits (attended criteria (embark settings criteria subject useStore) s).result)
  /-- The rest of an evaluation that waits. -/
  | conclude {criteria : Criteria} {subject : Value} {key : String} {s : Service σ}
      (overlaps : together) (used : useStore = true) (passed : accepted settings subject = .ok ())
      (known : keyOf settings criteria subject = .ok key) :
      Passes settings I useStore together s
        (attended criteria (conclude settings criteria subject (.pending key)) s).state
        {.of criteria subject
          (attended criteria (conclude settings criteria subject (.pending key)) s).result} (-1)
  | trans {s t u : Service σ} {calls later : Multiset Call} {waiting more : ℤ}
      (first : Passes settings I useStore together s t calls waiting)
      (rest : Passes settings I useStore together t u later more) :
      Passes settings I useStore together s u (calls + later) (waiting + more)

namespace Passes

variable {settings : Settings} {I : σ → Prop} {useStore : Bool} {together : Prop}
  {s t u : Service σ} {calls later : Multiset Call} {waiting : ℤ}

theorem refl (s : Service σ) : Passes settings I useStore together s s 0 0 :=
  .quiet rfl id

theorem thenQuiet (first : Passes settings I useStore together s t calls waiting)
    (same : tally u = tally t) (held : I u.store → I t.store) :
    Passes settings I useStore together s u calls waiting := by
  simpa using first.trans (.quiet same held)

/-- What is done afterwards counts nothing. -/
theorem andThen {x : Step (Service σ) α} {f : α → Step (Service σ) β}
    (first : Passes settings I useStore together s (x s).state calls waiting)
    (rest : ∀ a, Quiet I (f a)) :
    Passes settings I useStore together s ((x >>= f) s).state calls waiting := by
  rw [Action.bind_apply]
  cases (x s).result with
  | error failure => exact first
  | ok a =>
    obtain ⟨same, held⟩ := rest a (x s).state
    exact first.thenQuiet same held

theorem ofQuiet {x : Step (Service σ) α} (quiet : Quiet I x) (s : Service σ) :
    Passes settings I useStore together s (x s).state 0 0 :=
  .quiet (quiet s).1 (quiet s).2

/-- Items one after another, none of which fails. -/
theorem each {f : α → Step (Service σ) β} {callsOf : α → β → List Call}
    (one : ∀ a s, ∃ b, (f a s).result = .ok b ∧
      Passes settings I useStore together s (f a s).state (callsOf a b) 0)
    (items : List α) (s : Service σ) :
    ∃ outcomes, (Action.each f items s).result = .ok outcomes ∧
      outcomes.length = items.length ∧
      Passes settings I useStore together s (Action.each f items s).state
        (List.zipWith callsOf items outcomes).flatten 0 := by
  induction items generalizing s with
  | nil => exact ⟨[], rfl, rfl, refl s⟩
  | cons a rest ih =>
    obtain ⟨b, came, first⟩ := one a s
    obtain ⟨outcomes, came', many, later⟩ := ih (f a s).state
    obtain ⟨all, left⟩ := Action.each_of_ok came came'
    refine ⟨b :: outcomes, all, congrArg (· + 1) many, left ▸ ?_⟩
    simpa using first.trans later

end Passes

/-! ### Evaluations one after another -/

section Composed

variable {settings : Settings} {I : σ → Prop} {useStore : Bool} {together : Prop}
  {criteria : Criteria} {useStore? : Option Bool}

theorem passes_attempt (used : useStore?.getD settings.storeResults = useStore) (subject : Value)
    (s : Service σ) : ∃ outcome,
      ((evaluate settings (some criteria) subject useStore?).attempt (φ := Failure) s).result =
        .ok outcome ∧
      Passes settings I useStore together s
        ((evaluate settings (some criteria) subject useStore?).attempt (φ := Failure) s).state
        [Call.of criteria subject outcome] 0 :=
  ⟨_, rfl, .evaluate used⟩

theorem flatten_zipWith_singleton {γ : Type} (f : α → β → γ) (items : List α)
    (outcomes : List β) :
    (List.zipWith (fun a b => [f a b]) items outcomes).flatten = List.zipWith f items outcomes := by
  rw [← List.map_zipWith (f := fun c => [c]), ← List.flatMap_def, List.flatMap_singleton']

theorem passes_gatherInTurn (used : useStore?.getD settings.storeResults = useStore)
    (subjects : List Value) (s : Service σ) :
    ∃ outcomes, (gatherInTurn settings (some criteria) useStore? subjects s).result =
        .ok outcomes ∧
      Passes settings I useStore together s
        (gatherInTurn settings (some criteria) useStore? subjects s).state
        (List.zipWith (Call.of criteria) subjects outcomes) 0 := by
  obtain ⟨outcomes, came, -, passes⟩ := Passes.each (passes_attempt used) subjects s
  refine ⟨outcomes, came, ?_⟩
  rwa [flatten_zipWith_singleton] at passes

/-- What an evaluation that is not told about leaves. -/
theorem passes_warm (subject : Value) (s : Service σ) :
    ∃ outcome, (warm settings criteria subject s).result = .ok outcome ∧
      Passes settings I true together s (warm settings criteria subject s).state
        [Call.ofWarm criteria subject outcome] 0 := by
  have evaluated : Passes settings I true together s
      (evaluate settings (some criteria) subject (some true) s).state
      {.of criteria subject (evaluate settings (some criteria) subject (some true) s).result} 0 :=
    .evaluate rfl
  unfold warm
  rw [Action.bind_apply]
  dsimp only [Action.attempt]
  cases came : (evaluate settings (some criteria) subject (some true) s).result with
  | ok e =>
    rw [came] at evaluated
    exact ⟨.ok true, rfl, evaluated⟩
  | error failure =>
    rw [came] at evaluated
    dsimp only
    split
    · exact ⟨.ok false, rfl, evaluated⟩
    · exact ⟨.error failure, rfl, evaluated⟩

theorem passes_evaluateItem (subject : Value) (s : Service σ) :
    Passes settings I useStore together s (evaluateItem settings criteria useStore subject s).state
      {.of criteria subject (evaluateItem settings criteria useStore subject s).result} 0 := by
  cases useStore with
  | true => exact .evaluate rfl
  | false => exact .item rfl

omit [Store σ] in
theorem state_digestOr (subject : Value) (s : Service σ) : (digestOr subject s).state = s := by
  unfold digestOr
  cases Canonical.digest subject with
  | ok digest => rfl
  | error fault => cases fault <;> rfl

/-- The item of a subject is what its evaluation leaves, if there is one. -/
theorem passes_itemOf (indexed : Value × Nat) (s : Service σ) :
    ∃ outcome, ((itemOf settings criteria useStore indexed).attempt (φ := Failure) s).result =
        .ok outcome ∧
      Passes settings I useStore together s
        ((itemOf settings criteria useStore indexed).attempt (φ := Failure) s).state
        (Call.ofItem criteria indexed.1 outcome) 0 := by
  obtain ⟨subject, index⟩ := indexed
  refine ⟨_, rfl, ?_⟩
  change Passes settings I useStore together s (itemOf settings criteria useStore (subject, index) s).state
    (Call.ofItem criteria subject (itemOf settings criteria useStore (subject, index) s).result) 0
  have evaluated : Passes settings I useStore together s
      (evaluateItem settings criteria useStore subject s).state
      {.of criteria subject (evaluateItem settings criteria useStore subject s).result} 0 :=
    passes_evaluateItem subject s
  dsimp only [itemOf]
  rw [Action.bind_apply]
  have digested := state_digestOr subject s
  cases (digestOr subject s).result with
  | error failure =>
    rw [digested]
    exact .refl s
  | ok digest =>
    rw [digested]
    dsimp only
    rw [Action.bind_apply]
    dsimp only [Action.attempt]
    cases came : (evaluateItem settings criteria useStore subject s).result with
    | ok e =>
      rw [came] at evaluated
      exact evaluated
    | error failure =>
      rw [came] at evaluated
      exact evaluated.thenQuiet (tally_increment (c := .errors) (by decide) _ _) id

/-- Items of chunks, up to the chunk in which one could not be made. -/
theorem passes_attemptItems (chunks : List (List Value)) (start : Nat) (s : Service σ) :
    ∃ outcomes, (attemptItems settings criteria useStore start chunks s).result = .ok outcomes ∧
      Passes settings I useStore together s
        (attemptItems settings criteria useStore start chunks s).state
        (List.zipWith (Call.ofItem criteria) chunks.flatten outcomes).flatten 0 := by
  induction chunks generalizing start s with
  | nil => exact ⟨[], rfl, .refl s⟩
  | cons chunk rest ih =>
    obtain ⟨outcomes, came, many, first⟩ := Passes.each
      (fun indexed s => passes_itemOf (I := I) indexed s) (chunk.zipIdx start) s
    have numbered : List.zipWith (fun indexed outcome => Call.ofItem criteria indexed.1 outcome)
        (chunk.zipIdx start) outcomes = List.zipWith (Call.ofItem criteria) chunk outcomes := by
      conv_rhs => rw [← List.zipIdx_map_fst start chunk, List.zipWith_map_left]
    rw [numbered] at first
    rw [List.length_zipIdx] at many
    rw [attemptItems, Action.bind_apply, came]
    dsimp only
    split
    · obtain ⟨later, came', others⟩ := ih (start + chunk.length)
        (Action.each (fun indexed => (itemOf settings criteria useStore indexed).attempt)
          (chunk.zipIdx start) s).state
      refine ⟨outcomes ++ later, ?_, ?_⟩
      · exact (Action.result_bind came').trans rfl
      · rw [Action.bind_apply, came', List.flatten_cons, List.zipWith_append many.symm]
        simpa using first.trans others
    · refine ⟨outcomes, rfl, ?_⟩
      have all : List.zipWith (Call.ofItem criteria) (chunk ++ rest.flatten) (outcomes ++ []) =
          List.zipWith (Call.ofItem criteria) chunk outcomes ++ _ := List.zipWith_append many.symm
      rw [List.zipWith_nil_right, List.append_nil, List.append_nil] at all
      rw [List.flatten_cons, all]
      exact first

theorem passes_warmUp (subjects : List Value) (s : Service σ) :
    ∃ outcomes, (Action.each (warm settings criteria) subjects s).result = .ok outcomes ∧
      Passes settings I true together s (warmUp settings (some criteria) subjects s).state
        (List.zipWith (Call.ofWarm criteria) subjects outcomes) 0 := by
  obtain ⟨outcomes, came, -, passes⟩ := Passes.each (passes_warm (I := I)) subjects s
  rw [flatten_zipWith_singleton] at passes
  refine ⟨outcomes, came, passes.andThen fun outcomes => ?_⟩
  exact Quiet.ofExcept.bind fun warmed => Quiet.note.bind fun _ => .pure

theorem passes_evaluateBatch (subjects : List Value) (s : Service σ) :
    ∃ outcomes, (attemptItems settings criteria useStore 0
        (Batch.chunks settings.batchSize.toNat subjects) s).result = .ok outcomes ∧
      Passes settings I useStore together s
        (evaluateBatch settings (some criteria) subjects useStore s).state
        (List.zipWith (Call.ofItem criteria) subjects outcomes).flatten 0 := by
  obtain ⟨outcomes, came, passes⟩ :=
    passes_attemptItems (I := I) (Batch.chunks settings.batchSize.toNat subjects) 0 s
  rw [Batch.flatten_chunks] at passes
  refine ⟨outcomes, came, passes.andThen fun outcomes => ?_⟩
  refine Quiet.ofExcept.bind fun items => Quiet.ofExcept.bind fun criteriaId => ?_
  exact Quiet.note.bind fun _ => (Quiet.measure (by decide) _).bind fun _ => .pure

end Composed

/-! ### Evaluations that overlap -/

section Overlapping

variable {settings : Settings} {I : σ → Prop} {useStore : Bool} {together : Prop}
  {criteria : Criteria} {useStore? : Option Bool}

/-- An evaluation that waits uses the store, its subject was accepted, and its key is known. -/
theorem known_of_pending {subject : Value} {key : String} {s : Service σ}
    (came : (attended criteria (embark settings criteria subject useStore) s).result =
      .ok (.pending key)) :
    useStore = true ∧ accepted settings subject = .ok () ∧
      keyOf settings criteria subject = .ok key := by
  cases useStore with
  | true =>
    have counts : Counts (σ := σ) (attended criteria (embark settings criteria subject true))
        (Begun fun key => accepted settings subject = .ok () ∧
          keyOf settings criteria subject = .ok key) := counts_embark.attended
    have begun := counts s
    rw [came] at begun
    exact ⟨rfl, begun.2⟩
  | false =>
    have counts : Counts (σ := σ) (attended criteria (embark settings criteria subject false))
        BegunPast := counts_embark_past.attended
    have begun := counts s
    rw [came] at begun
    exact begun.elim

/-- What the rest of an evaluation needs to know. -/
def Continuable (settings : Settings) (criteria : Criteria) (useStore : Bool)
    (part : Value × Except Failure Progress) : Prop :=
  ∀ key, part.2 = .ok (.pending key) → useStore = true ∧ accepted settings part.1 = .ok () ∧
    keyOf settings criteria part.1 = .ok key

theorem passes_embarkAll (overlaps : together) (subjects : List Value) (s : Service σ) :
    ∃ parts, (embarkAll settings criteria useStore subjects s).result = .ok parts ∧
      parts.map Prod.fst = subjects ∧
      (∀ part ∈ parts, Continuable settings criteria useStore part) ∧
      Passes settings I useStore together s
        (embarkAll settings criteria useStore subjects s).state
        (parts.flatMap fun part => Call.ofBegun criteria part.1 part.2)
        (parts.map fun part => waits part.2).sum := by
  induction subjects generalizing s with
  | nil => exact ⟨[], rfl, rfl, by simp, .refl s⟩
  | cons subject rest ih =>
    let first := attended criteria (embark settings criteria subject useStore) s
    obtain ⟨parts, came, subjects, known, later⟩ := ih first.state
    obtain ⟨all, left⟩ := Action.each_of_ok (f := fun subject => do
      return (subject, ← (attended criteria (embark settings criteria subject useStore)).attempt))
      (a := subject) (s := s) rfl came
    refine ⟨(subject, first.result) :: parts, all, by simp [subjects], ?_, ?_⟩
    · intro part member
      rcases List.mem_cons.1 member with rfl | member
      · exact fun key => known_of_pending
      · exact known part member
    · have begun : Passes settings I useStore together s first.state _ _ := .embark overlaps
      rw [embarkAll, left, List.flatMap_cons, List.map_cons, List.sum_cons, ← Multiset.coe_add]
      exact begun.trans later

theorem passes_concludeOne (overlaps : together) (part : Value × Except Failure Progress)
    (known : Continuable settings criteria useStore part) (s : Service σ) :
    ∃ outcome, (concludeOne settings criteria part s).result = .ok outcome ∧
      ∃ calls : Multiset Call, Passes settings I useStore together s
        (concludeOne settings criteria part s).state calls (-waits part.2) ∧
        (Call.ofBegun criteria part.1 part.2 : Multiset Call) + calls =
          {Call.of criteria part.1 outcome} := by
  match part with
  | (subject, .error failure) => exact ⟨_, rfl, 0, .refl s, rfl⟩
  | (subject, .ok (.done e)) => exact ⟨_, rfl, 0, .refl s, rfl⟩
  | (subject, .ok (.pending key)) =>
    obtain ⟨used, passed, known⟩ := known key rfl
    exact ⟨_, rfl, _, .conclude overlaps used passed known, rfl⟩

theorem passes_concludeAll (overlaps : together) (parts : List (Value × Except Failure Progress))
    (known : ∀ part ∈ parts, Continuable settings criteria useStore part) (s : Service σ) :
    ∃ outcomes, (Action.each (concludeOne settings criteria) parts s).result = .ok outcomes ∧
      ∃ calls : Multiset Call, Passes settings I useStore together s
        (Action.each (concludeOne settings criteria) parts s).state calls
          (-(parts.map fun part => waits part.2).sum) ∧
        ((parts.flatMap fun part => Call.ofBegun criteria part.1 part.2 : List Call) :
          Multiset Call) + calls =
          (List.zipWith (Call.of criteria) (parts.map Prod.fst) outcomes : List Call) := by
  induction parts generalizing s with
  | nil => exact ⟨[], rfl, 0, .refl s, rfl⟩
  | cons part rest ih =>
    obtain ⟨outcome, came, calls, first, one⟩ :=
      passes_concludeOne (I := I) overlaps part (known part List.mem_cons_self) s
    obtain ⟨outcomes, came', calls', later, many⟩ :=
      ih (fun part member => known part (List.mem_cons_of_mem _ member))
        (concludeOne settings criteria part s).state
    obtain ⟨all, left⟩ := Action.each_of_ok came came'
    refine ⟨outcome :: outcomes, all, calls + calls', ?_, ?_⟩
    · rw [left, List.map_cons, List.sum_cons, Int.neg_add]
      exact first.trans later
    · rw [List.flatMap_cons, List.map_cons, List.zipWith_cons_cons, ← Multiset.coe_add,
        add_add_add_comm, one, many]
      rfl

/-- Evaluations that all look up first: each waits or has ended before the first goes on. -/
theorem passes_gatherTogether (overlaps : together) (subjects : List Value) (s : Service σ) :
    ∃ outcomes, (gatherTogether settings criteria useStore subjects s).result = .ok outcomes ∧
      Passes settings I useStore together s
        (gatherTogether settings criteria useStore subjects s).state
        (List.zipWith (Call.of criteria) subjects outcomes) 0 := by
  obtain ⟨parts, came, rfl, known, first⟩ :=
    passes_embarkAll (I := I) overlaps subjects s
  obtain ⟨outcomes, came', calls, later, all⟩ := passes_concludeAll (I := I) overlaps parts known
    (embarkAll settings criteria useStore (parts.map Prod.fst) s).state
  have both := first.trans later
  rw [all, Int.add_right_neg] at both
  rw [gatherTogether, Action.bind_apply, came]
  exact ⟨outcomes, came', both⟩

theorem passes_gather (subjects : List Value) (s : Service σ)
    (overlaps : Store.yields s.store = true → together) :
    ∃ outcomes, (gather settings (some criteria) useStore? subjects s).result = .ok outcomes ∧
      Passes settings I (useStore?.getD settings.storeResults) together s
        (gather settings (some criteria) useStore? subjects s).state
        (List.zipWith (Call.of criteria) subjects outcomes) 0 := by
  unfold gather
  dsimp only
  rw [Action.bind_apply]
  dsimp only [Action.current]
  split
  · next yields => exact passes_gatherTogether (overlaps yields) subjects s
  · exact passes_gatherInTurn rfl subjects s

end Overlapping

/-! ### Moves -/

/-- What items came to, if it is known. -/
def outcomesOf {β : Type} (result : Except Failure (List β)) : List β := result.toOption.getD []

theorem outcomesOf_ok {β : Type} {result : Except Failure (List β)} {outcomes : List β}
    (came : result = .ok outcomes) : outcomesOf result = outcomes := by
  rw [came]
  rfl

namespace Move

variable {ω : Type}

/-- Whether the evaluations of a move use the store. -/
def usesStore (settings : Settings) : Move ω → Bool
  | .evaluate _ _ useStore? => useStore?.getD settings.storeResults
  | .gather _ _ useStore? => useStore?.getD settings.storeResults
  | .batch _ _ useStore => useStore
  | _ => true

/-- The evaluations of a move that came to an end, when it begins at `s`. -/
def calls (settings : Settings) (s : Service σ) : Move ω → List Call
  | .evaluate (some criteria) subject useStore? =>
    [.of criteria subject (Service.evaluate settings (some criteria) subject useStore? s).result]
  | .gather (some criteria) subjects useStore? =>
    List.zipWith (Call.of criteria) subjects
      (outcomesOf (Service.gather settings (some criteria) useStore? subjects s).result)
  | .batch (some criteria) subjects useStore =>
    (List.zipWith (Call.ofItem criteria) subjects (outcomesOf
      (attemptItems settings criteria useStore 0
        (Batch.chunks settings.batchSize.toNat subjects) s).result)).flatten
  | .warmUp (some criteria) subjects =>
    List.zipWith (Call.ofWarm criteria) subjects
      (outcomesOf (Action.each (warm settings criteria) subjects s).result)
  | _ => []

/-- Whether evaluations of a move may overlap: the store yields, and several are begun before the
first has ended. -/
def overlaps (settings : Settings) (s : Service σ) : Move ω → Bool
  | .gather .. => Store.yields s.store
  | .batch _ subjects _ | .warmUp _ subjects =>
    Store.yields s.store && decide (1 < settings.batchConcurrency) && decide (1 < subjects.length)
  | _ => false

end Move

section Turns

variable {ω : Type} [Surroundings σ ω] {settings : Settings} {I : σ → Prop} {together : Prop}

omit [Store σ] in
theorem quiet_withoutCriteria : Quiet I (withoutCriteria (σ := σ) (α := α)) :=
  (Quiet.measure (by decide) _).bind fun _ => .fail

omit [Store σ] in
theorem quiet_countDropped (mode : String) : Quiet I (countDropped (σ := σ) mode) :=
  Quiet.measure (by decide) _

/-- **A move is a sequence of passages.** -/
theorem passes_move (tended : Store.Tended I) (asked : Move ω)
    (outside : ∀ event, asked = .outside event → ∀ s, I (Surroundings.occur event s) → I s)
    (s : Service σ) (overlaps : asked.overlaps settings s = true → together) :
    Passes settings I (asked.usesStore settings) together s (asked.step settings s).state
      (asked.calls settings s) 0 := by
  have known (criteria? : Option Criteria) (subject : Value) :
      Quiet I (Action.ofExcept (σ := Service σ) (keyOfGiven settings criteria? subject)) :=
    .ofExcept
  cases asked with
  | evaluate criteria? subject useStore? =>
    cases criteria? with
    | none => exact .ofQuiet (quiet_withoutCriteria.bind fun _ => .pure) s
    | some criteria =>
      exact Passes.andThen (.evaluate rfl) fun _ => .pure
  | gather criteria? subjects useStore? =>
    cases criteria? with
    | none =>
      refine .ofQuiet (Quiet.bind (Quiet.each fun subject => ?_) fun _ => .pure) s
      exact quiet_withoutCriteria.attempt
    | some criteria =>
      obtain ⟨outcomes, came, passes⟩ := passes_gather (I := I) subjects s overlaps
      rw [Move.calls, outcomesOf_ok came]
      exact passes.andThen fun _ => .pure
  | batch criteria? subjects useStore =>
    cases criteria? with
    | none => exact .ofQuiet (Quiet.fail.bind fun _ => .pure) s
    | some criteria =>
      obtain ⟨outcomes, came, passes⟩ := passes_evaluateBatch (I := I) subjects s
      rw [Move.calls, outcomesOf_ok came]
      exact passes.andThen fun _ => .pure
  | warmUp criteria? subjects =>
    cases criteria? with
    | none => exact .ofQuiet (Quiet.fail.bind fun _ => .pure) s
    | some criteria =>
      obtain ⟨outcomes, came, passes⟩ := passes_warmUp (I := I) subjects s
      rw [Move.calls, outcomesOf_ok came]
      exact passes.andThen fun _ => .pure
  | isStored criteria? subject =>
    refine .ofQuiet (Quiet.bind ?_ fun _ => .pure) s
    exact (known criteria? subject).bind fun key => .inStore (tended.holds key)
  | dropResult criteria? subject =>
    refine .ofQuiet (Quiet.bind ?_ fun _ => .pure) s
    refine (known criteria? subject).bind fun key => (Quiet.inStore (tended.delete key)).bind ?_
    exact fun _ => (quiet_countDropped "key").bind fun _ => .pure
  | dropCriteria criteriaId =>
    refine .ofQuiet (Quiet.bind ?_ fun _ => .pure) s
    have counted (byTag : Bool) (count : Nat) : Quiet I (do
        countDropped (σ := σ) (Event.modeText byTag)
        Action.note (.invalidated byTag count)
        return count) :=
      (quiet_countDropped _).bind fun _ => Quiet.note.bind fun _ => .pure
    refine Quiet.current.bind fun now => ?_
    dsimp only
    split
    · exact (Quiet.inStore (tended.dropTag _)).bind (counted _)
    · exact (Quiet.inStore tended.flush).bind (counted _)
  | dropAll =>
    refine .ofQuiet (Quiet.bind ?_ fun _ => .pure) s
    refine (Quiet.inStore tended.flush).bind fun count => ?_
    exact (quiet_countDropped _).bind fun _ => Quiet.note.bind fun _ => .pure
  | outside event =>
    exact .quiet rfl (outside event rfl s.store)

end Turns

namespace Turn

variable {ω : Type}

/-- Whether the evaluations of a turn use the store. -/
def usesStore (settings : Settings) : Turn ω → Bool
  | .move asked => asked.usesStore settings
  | .embark _ _ useStore? => useStore?.getD settings.storeResults
  | .conclude _ => true

variable [Surroundings σ ω]

/-- The evaluations that come to an end in a turn. -/
def calls (settings : Settings) (crowd : Crowd σ) : Turn ω → List Call
  | .move asked => asked.calls settings crowd.service
  | .embark criteria subject useStore? =>
    Call.ofBegun criteria subject (attended criteria (Service.embark settings criteria subject
      (useStore?.getD settings.storeResults)) crowd.service).result
  | .conclude place =>
    match crowd.waiting[place]? with
    | none => []
    | some w =>
      [.of w.criteria w.subject (attended w.criteria
        (Service.conclude settings w.criteria w.subject (.pending w.key)) crowd.service).result]

/-- Whether evaluations of a turn may overlap with others. -/
def overlaps (settings : Settings) (crowd : Crowd σ) : Turn ω → Bool
  | .move asked => asked.overlaps settings crowd.service
  | _ => true

end Turn

/-- The subjects of evaluations that wait were accepted, and their keys are known. -/
def Crowd.Known (settings : Settings) (crowd : Crowd σ) : Prop :=
  ∀ w ∈ crowd.waiting, accepted settings w.subject = .ok () ∧
    keyOf settings w.criteria w.subject = .ok w.key

/-- **A turn is a sequence of passages**, after which so many more evaluations wait. -/
theorem passes_take {ω : Type} [Surroundings σ ω] {settings : Settings} {I : σ → Prop}
    {together : Prop} (tended : Store.Tended I) (turn : Turn ω)
    (outside : ∀ event, turn = .move (.outside event) → ∀ s,
      I (Surroundings.occur event s) → I s)
    (crowd : Crowd σ) (known : crowd.Known settings)
    (overlaps : turn.overlaps settings crowd = true → together) :
    Passes settings I (turn.usesStore settings) together crowd.service
        (turn.take settings crowd).2.service (turn.calls settings crowd)
        ((turn.take settings crowd).2.waiting.length - crowd.waiting.length) ∧
      (turn.take settings crowd).2.Known settings := by
  cases turn with
  | move asked =>
    refine ⟨?_, known⟩
    rw [show (((Turn.move asked).take settings crowd).2.waiting.length : ℤ) - crowd.waiting.length = 0 from
      Int.sub_self _]
    exact passes_move tended asked (fun event same => outside event (congrArg Turn.move same))
      crowd.service overlaps
  | embark criteria subject useStore? =>
    let useStore := useStore?.getD settings.storeResults
    let begun := attended criteria (embark settings criteria subject useStore) crowd.service
    have passes : Passes settings I useStore together crowd.service begun.state
        (Call.ofBegun criteria subject begun.result) (waits begun.result) := .embark (overlaps rfl)
    unfold Turn.take Turn.calls Turn.usesStore
    dsimp only
    split
    · next e came =>
      rw [came] at passes ⊢
      exact ⟨by rwa [Int.sub_self], known⟩
    · next key came =>
      rw [came] at passes ⊢
      have more (w : Waiting) :
          ((crowd.waiting ++ [w]).length : ℤ) - crowd.waiting.length = 1 := by
        rw [List.length_append, List.length_singleton]
        omega
      refine ⟨by rwa [more], fun w member => ?_⟩
      rcases List.mem_append.1 member with before | new
      · exact known w before
      · obtain rfl := List.mem_singleton.1 new
        exact (known_of_pending came).2
    · next failure came =>
      rw [came] at passes ⊢
      exact ⟨by rwa [Int.sub_self], known⟩
  | conclude place =>
    unfold Turn.take Turn.calls Turn.usesStore
    dsimp only
    cases there : crowd.waiting[place]? with
    | none => exact ⟨by simpa using Passes.refl crowd.service, known⟩
    | some w =>
      obtain ⟨passed, keyed⟩ := known w (List.mem_of_getElem? there)
      let ended := attended w.criteria
        (conclude settings w.criteria w.subject (.pending w.key)) crowd.service
      have passes : Passes settings I true together crowd.service ended.state
          {.of w.criteria w.subject ended.result} (-1) :=
        .conclude (overlaps rfl) rfl passed keyed
      obtain ⟨within, -⟩ := List.getElem?_eq_some_iff.1 there
      have fewer : ((crowd.waiting.eraseIdx place).length : ℤ) - crowd.waiting.length = -1 := by
        rw [List.length_eraseIdx_of_lt within]
        omega
      dsimp only
      rw [fewer]
      exact ⟨passes, fun v member => known v (List.mem_of_mem_eraseIdx member)⟩

end Service
end Eligibility
