/-
# Watched stores

Any store can be watched: next to its state stands whether one of its operations has failed
(`Watched`).  The service cannot see that.  What it does over a store it does, with the same results
and the same events, over every store that the first is shown as (`Store.Shows`), and so do crowds
(`shows_take`): turns over a store and over the watched store differ only in what stands next to the
state.  So whether an operation fails in a run can be read off its end
(`Watched.telling`).
-/

import Eligibility.Proofs.Service.Reliable

namespace Eligibility

/-- An action does what another does to what `φ` shows of the state. -/
def Projects {σ τ α : Type} (φ : τ → σ) (x : Step τ α) (y : Step σ α) : Prop :=
  ∀ t, y (φ t) = ⟨(x t).result, φ (x t).state, (x t).events⟩

namespace Projects

variable {σ τ α β : Type} {φ : τ → σ}

theorem pure {a : α} : Projects φ (Pure.pure a) (Pure.pure a) := fun _ => rfl

theorem note {event : Event} : Projects φ (Action.note event) (Action.note event) := fun _ => rfl

theorem fail {failure : Failure} :
    Projects (α := α) φ (Action.fail failure) (Action.fail failure) := fun _ => rfl

theorem ofExcept {x : Except Failure α} : Projects φ (Action.ofExcept x) (Action.ofExcept x) :=
  fun _ => rfl

theorem ofTrial {x : Trial α} : Projects φ (Step.ofTrial x) (Step.ofTrial x) := fun _ => rfl

theorem modify {f : τ → τ} {g : σ → σ} (same : ∀ t, g (φ t) = φ (f t)) :
    Projects φ (Action.modify f) (Action.modify g) :=
  fun t => by rw [Action.modify, same]; rfl

theorem bind {x : Step τ α} {y : Step σ α} {f : α → Step τ β} {g : α → Step σ β}
    (first : Projects φ x y) (rest : ∀ a, Projects φ (f a) (g a)) :
    Projects φ (x >>= f) (y >>= g) := by
  intro t
  rw [Action.bind_apply, Action.bind_apply, first t]
  cases (x t).result with
  | error failure => rfl
  | ok a =>
    dsimp only
    rw [rest a]

theorem current {f : τ → Step τ α} {g : σ → Step σ α} (rest : ∀ t, Projects φ (f t) (g (φ t))) :
    Projects φ (Action.current >>= f) (Action.current >>= g) := fun t => rest t t

theorem attempt {x : Step τ α} {y : Step σ α} (h : Projects φ x y) :
    Projects φ (x.attempt (φ := Failure)) (y.attempt (φ := Failure)) :=
  fun t => by rw [Action.attempt, h t]; rfl

theorem ending {x : Step τ α} {y : Step σ α} {f : τ → τ} {g : σ → σ} (h : Projects φ x y)
    (same : ∀ t, g (φ t) = φ (f t)) : Projects φ (x.ending f) (y.ending g) :=
  fun t => by rw [Action.ending, h t]; simp only [same]; rfl

theorem each {f : α → Step τ β} {g : α → Step σ β} (one : ∀ a, Projects φ (f a) (g a))
    (items : List α) : Projects φ (Action.each f items) (Action.each g items) := by
  induction items with
  | nil => exact pure
  | cons a rest ih => exact (one a).bind fun b => ih.bind fun bs => pure

end Projects

/-- What `φ` shows of a store is a store that does the same. -/
structure Store.Shows {σ τ : Type} [Store σ] [Store τ] (φ : τ → σ) : Prop where
  supportsTags : ∀ t, Store.supportsTags (φ t) = Store.supportsTags t
  yields : ∀ t, Store.yields (φ t) = Store.yields t
  get : ∀ key, Projects φ (Store.get key) (Store.get key)
  put : ∀ key value lifetime tags,
    Projects φ (Store.put key value lifetime tags) (Store.put key value lifetime tags)
  delete : ∀ key, Projects φ (Store.delete key) (Store.delete key)
  holds : ∀ key, Projects φ (Store.holds key) (Store.holds key)
  dropTag : ∀ tag, Projects φ (Store.dropTag tag) (Store.dropTag tag)
  flush : Projects φ Store.flush Store.flush

namespace Service

variable {σ τ α : Type} {φ : τ → σ}

/-- A service over what is shown of its store. -/
def shown (φ : τ → σ) (s : Service τ) : Service σ where
  store := φ s.store
  metrics := s.metrics
  hits := s.hits
  misses := s.misses
  locks := s.locks
  context := s.context
  drawn := s.drawn

/-- A crowd over what is shown of its store. -/
def Crowd.shown (φ : τ → σ) (crowd : Crowd τ) : Crowd σ :=
  ⟨crowd.service.shown φ, crowd.waiting⟩

theorem shows_inStore {x : Step τ α} {y : Step σ α} (h : Projects φ x y) :
    Projects (shown φ) (inStore x) (inStore y) := by
  intro s
  change (⟨(y (φ s.store)).result, { shown φ s with store := (y (φ s.store)).state },
    (y (φ s.store)).events⟩ : Outcome Failure (Service σ) α) = _
  rw [h s.store]
  rfl

theorem shows_measure {f : Metrics → Metrics} :
    Projects (shown φ) (measure f) (measure f) := .modify fun _ => rfl

variable {settings : Settings} {criteria : Criteria} {criteria? : Option Criteria}
  {subject : Value} {subjects : List Value} {useStore : Bool} {useStore? : Option Bool}

theorem shows_accept : Projects (shown φ) (accept settings subject) (accept settings subject) := by
  unfold accept
  split
  · exact .ofTrial
  · exact .pure

theorem shows_compute : Projects (shown φ) (compute settings criteria subject)
    (compute settings criteria subject) := by
  refine Projects.bind (.ending .ofTrial fun _ => ?_) fun _ => shows_measure.bind fun _ => .pure
  rfl

theorem shows_report {failure : Failure} :
    Projects (shown φ) (report failure) (report failure) := by
  unfold report
  split
  · exact .pure
  · refine shows_measure.bind fun _ => ?_
    split
    · exact .note
    · exact .pure

theorem shows_attended {x : Step (Service τ) α} {y : Step (Service σ) α}
    (h : Projects (shown φ) x y) :
    Projects (shown φ) (attended criteria x) (attended criteria y) := by
  refine Projects.ending ?_ fun _ => rfl
  refine Projects.bind (.modify fun _ => rfl) fun _ => h.attempt.bind fun outcome => ?_
  cases outcome with
  | ok a => exact .pure
  | error failure => exact shows_report.bind fun _ => .fail

theorem shows_withoutCriteria :
    Projects (α := α) (shown φ) withoutCriteria withoutCriteria :=
  shows_measure.bind fun _ => .fail

theorem shows_digestOr : Projects (shown φ) (digestOr subject) (digestOr subject) := by
  unfold digestOr
  split
  · exact .pure
  · exact .fail
  · exact Projects.note.bind fun _ => .pure

theorem shows_countDropped {mode : String} :
    Projects (shown φ) (countDropped mode) (countDropped mode) := shows_measure

variable [Store σ] [Store τ] (shows : Store.Shows φ)

include shows

theorem shows_fetch (key : String) : Projects (shown φ) (fetch key) (fetch key) := by
  refine (shows_inStore (shows.get key)).bind fun found => ?_
  cases found with
  | none => exact .pure
  | some stored =>
    dsimp only
    split
    · exact .pure
    · exact Projects.note.bind fun _ => (shows_inStore (shows.delete key)).bind fun _ => .pure

theorem shows_lookup (key : String) (countMisses : Bool) :
    Projects (shown φ) (lookup key countMisses) (lookup key countMisses) := by
  refine (shows_fetch shows key).bind fun found => ?_
  cases found with
  | some e => exact Projects.bind (.modify fun _ => rfl) fun _ => .pure
  | none =>
    cases countMisses with
    | false => exact .pure
    | true => exact Projects.bind (.modify fun _ => rfl) fun _ => .pure

theorem shows_settle (key : String) : Projects (shown φ) (settle settings criteria subject key)
    (settle settings criteria subject key) := by
  refine (shows_lookup shows key false).bind fun found => ?_
  cases found with
  | some e => exact Projects.note.bind fun _ => .pure
  | none =>
    refine shows_compute.bind fun e => Projects.bind ?_ fun _ => Projects.note.bind fun _ => .pure
    exact Projects.ofExcept.bind fun stored => shows_inStore (shows.put key stored _ _)

theorem shows_embark : Projects (shown φ) (embark settings criteria subject useStore)
    (embark settings criteria subject useStore) := by
  refine shows_accept.bind fun _ => ?_
  split
  · refine Projects.ofExcept.bind fun key => (shows_lookup shows key true).bind fun found => ?_
    cases found with
    | some e => exact Projects.note.bind fun _ => .pure
    | none => exact Projects.bind (.modify fun _ => rfl) fun _ => .pure
  · exact shows_compute.bind fun _ => Projects.note.bind fun _ => .pure

theorem shows_conclude (progress : Progress) :
    Projects (shown φ) (conclude settings criteria subject progress)
      (conclude settings criteria subject progress) := by
  cases progress with
  | done e => exact .pure
  | pending key => exact (shows_settle shows key).ending fun _ => rfl

theorem shows_evaluate : Projects (shown φ) (evaluate settings criteria? subject useStore?)
    (evaluate settings criteria? subject useStore?) := by
  cases criteria? with
  | none => exact shows_withoutCriteria
  | some criteria => exact shows_attended ((shows_embark shows).bind (shows_conclude shows))

theorem shows_concludeOne (part : Value × Except Failure Progress) :
    Projects (shown φ) (concludeOne settings criteria part) (concludeOne settings criteria part) := by
  match part with
  | (_, .error failure) => exact .pure
  | (_, .ok (.done e)) => exact .pure
  | (subject, .ok (.pending key)) => exact (shows_attended (shows_conclude shows _)).attempt

theorem shows_gather : Projects (shown φ) (gather settings criteria? useStore? subjects)
    (gather settings criteria? useStore? subjects) := by
  have inTurn (criteria? : Option Criteria) :
      Projects (shown φ) (gatherInTurn settings criteria? useStore? subjects)
        (gatherInTurn settings criteria? useStore? subjects) :=
    .each (fun _ => (shows_evaluate shows).attempt) _
  cases criteria? with
  | none => exact inTurn none
  | some criteria =>
    refine Projects.current fun s => ?_
    rw [show Store.yields (shown φ s).store = Store.yields s.store from shows.yields s.store]
    split
    · refine Projects.bind (.each (fun _ => ?_) _) fun parts => .each (shows_concludeOne shows) parts
      exact (shows_attended (shows_embark shows)).attempt.bind fun _ => .pure
    · exact inTurn (some criteria)

theorem shows_evaluateItem :
    Projects (shown φ) (evaluateItem settings criteria useStore subject)
      (evaluateItem settings criteria useStore subject) := by
  unfold evaluateItem
  split
  · exact shows_evaluate shows
  · exact shows_accept.bind fun _ => shows_compute

theorem shows_itemOf (indexed : Value × Nat) :
    Projects (shown φ) (itemOf settings criteria useStore indexed)
      (itemOf settings criteria useStore indexed) := by
  refine shows_digestOr.bind fun digest => (shows_evaluateItem shows).attempt.bind fun outcome => ?_
  cases outcome with
  | ok e => exact .pure
  | error failure => exact Projects.note.bind fun _ => shows_measure.bind fun _ => .pure

theorem shows_attemptItems (start : Nat) (chunks : List (List Value)) :
    Projects (shown φ) (attemptItems settings criteria useStore start chunks)
      (attemptItems settings criteria useStore start chunks) := by
  induction chunks generalizing start with
  | nil => exact .pure
  | cons chunk rest ih =>
    refine Projects.bind (.each (fun indexed => (shows_itemOf shows indexed).attempt) _) fun _ => ?_
    split
    · exact (ih _).bind fun _ => .pure
    · exact .pure

theorem shows_evaluateBatch : Projects (shown φ) (evaluateBatch settings criteria? subjects useStore)
    (evaluateBatch settings criteria? subjects useStore) := by
  cases criteria? with
  | none => exact .fail
  | some criteria =>
    refine (shows_attemptItems shows 0 _).bind fun _ => Projects.ofExcept.bind fun _ => ?_
    refine Projects.ofExcept.bind fun _ => Projects.note.bind fun _ => ?_
    exact shows_measure.bind fun _ => .pure

theorem shows_warm : Projects (shown φ) (warm settings criteria subject)
    (warm settings criteria subject) := by
  refine (shows_evaluate shows).attempt.bind fun outcome => ?_
  cases outcome with
  | ok e => exact .pure
  | error failure =>
    dsimp only
    split
    · exact Projects.note.bind fun _ => .pure
    · exact .pure

theorem shows_warmUp : Projects (shown φ) (warmUp settings criteria? subjects)
    (warmUp settings criteria? subjects) := by
  cases criteria? with
  | none => exact .fail
  | some criteria =>
    refine Projects.bind (.each (fun _ => shows_warm shows) _) fun _ => ?_
    exact Projects.ofExcept.bind fun _ => Projects.note.bind fun _ => .pure

theorem shows_dropCriteria (criteriaId : String) :
    Projects (shown φ) (dropCriteria criteriaId) (dropCriteria criteriaId) := by
  refine Projects.current fun s => ?_
  dsimp only
  rw [show Store.supportsTags (shown φ s).store = Store.supportsTags s.store from
    shows.supportsTags s.store]
  have counted (byTag : Bool) (count : Nat) : Projects (shown φ) (do
      countDropped (σ := τ) (Event.modeText byTag)
      Action.note (.invalidated byTag count)
      return count) (do
      countDropped (σ := σ) (Event.modeText byTag)
      Action.note (.invalidated byTag count)
      return count) :=
    shows_countDropped.bind fun _ => Projects.note.bind fun _ => .pure
  split
  · exact (shows_inStore (shows.dropTag _)).bind (counted _)
  · exact (shows_inStore shows.flush).bind (counted _)

/-! ### What is written down of a run -/

variable {ω : Type}

theorem calls_move_shown (asked : Move ω) (s : Service τ) :
    asked.calls settings (s.shown φ) = asked.calls settings s := by
  match asked with
  | .evaluate none .. | .gather none .. | .batch none .. | .warmUp none _ => rfl
  | .isStored .. | .dropResult .. | .dropCriteria _ | .dropAll | .outside _ => rfl
  | .evaluate (some criteria) subject useStore? =>
    rw [Move.calls, shows_evaluate shows s]
    rfl
  | .gather (some criteria) subjects useStore? =>
    rw [Move.calls, shows_gather shows s]
    rfl
  | .batch (some criteria) subjects useStore =>
    rw [Move.calls, shows_attemptItems shows 0 (Batch.chunks settings.batchSize.toNat subjects) s]
    rfl
  | .warmUp (some criteria) subjects =>
    have came : Projects (shown φ) (Action.each (warm settings criteria) subjects)
        (Action.each (warm settings criteria) subjects) := .each (fun _ => shows_warm shows) _
    rw [Move.calls, came s]
    rfl

theorem calls_shown (turn : Turn ω) (crowd : Crowd τ) :
    turn.calls settings (crowd.shown φ) = turn.calls settings crowd := by
  cases turn with
  | move asked => exact calls_move_shown shows asked crowd.service
  | embark criteria subject useStore? =>
    unfold Turn.calls
    dsimp only [Crowd.shown]
    rw [shows_attended (shows_embark shows) crowd.service]
  | conclude place =>
    unfold Turn.calls
    dsimp only [Crowd.shown]
    split
    · rfl
    · rw [shows_attended (shows_conclude shows _) crowd.service]

theorem overlaps_shown (turn : Turn ω) (crowd : Crowd τ) :
    turn.overlaps settings (crowd.shown φ) = turn.overlaps settings crowd := by
  have yields := shows.yields crowd.service.store
  match turn with
  | .embark .. | .conclude _ => rfl
  | .move (.gather ..) => exact yields
  | .move (.batch _ subjects _) | .move (.warmUp _ subjects) =>
    exact congrArg (fun y => y && decide (1 < settings.batchConcurrency) &&
      decide (1 < subjects.length)) yields
  | .move (.evaluate ..) | .move (.isStored ..) | .move (.dropResult ..) => rfl
  | .move (.dropCriteria _) | .move .dropAll | .move (.outside _) => rfl

/-! ### Moves and turns -/

variable [Surroundings σ ω] [Surroundings τ ω]
  (outside : ∀ (event : ω) t, Surroundings.occur event (φ t) = φ (Surroundings.occur event t))

include outside

/-- **A move** does over what is shown of a store what it does over the store. -/
theorem shows_step (asked : Move ω) :
    Projects (shown φ) (asked.step settings) (asked.step settings) := by
  cases asked with
  | evaluate criteria? subject useStore? => exact (shows_evaluate shows).bind fun _ => .pure
  | gather criteria? subjects useStore? => exact (shows_gather shows).bind fun _ => .pure
  | batch criteria? subjects useStore => exact (shows_evaluateBatch shows).bind fun _ => .pure
  | warmUp criteria? subjects => exact (shows_warmUp shows).bind fun _ => .pure
  | isStored criteria? subject =>
    refine Projects.bind (Projects.ofExcept.bind fun key => ?_) fun _ => .pure
    exact shows_inStore (shows.holds key)
  | dropResult criteria? subject =>
    refine Projects.bind (Projects.ofExcept.bind fun key => ?_) fun _ => .pure
    refine (shows_inStore (shows.delete key)).bind fun _ => shows_countDropped.bind fun _ => .pure
  | dropCriteria criteriaId => exact (shows_dropCriteria shows criteriaId).bind fun _ => .pure
  | dropAll =>
    refine Projects.bind ((shows_inStore shows.flush).bind fun _ => ?_) fun _ => .pure
    exact shows_countDropped.bind fun _ => Projects.note.bind fun _ => .pure
  | outside event =>
    refine Projects.bind (.modify fun s => ?_) fun _ => .pure
    change ({ shown φ s with store := Surroundings.occur event (φ s.store) } : Service σ) = _
    rw [outside]
    rfl

/-- **A turn** does over what is shown of a store what it does over the store. -/
theorem shows_take (turn : Turn ω) (crowd : Crowd τ) :
    turn.take settings (crowd.shown φ) =
      ((turn.take settings crowd).1, (turn.take settings crowd).2.shown φ) := by
  cases turn with
  | move asked =>
    unfold Turn.take
    dsimp only [Crowd.shown]
    rw [shows_step shows outside asked crowd.service]
    rfl
  | embark criteria subject useStore? =>
    unfold Turn.take
    dsimp only [Crowd.shown]
    rw [shows_attended (shows_embark shows) crowd.service]
    dsimp only
    split <;> rfl
  | conclude place =>
    unfold Turn.take
    dsimp only [Crowd.shown]
    split
    · rfl
    · rw [shows_attended (shows_conclude shows _) crowd.service]

end Service

/-! ### Watching a store -/

/-- A store, and whether one of its operations has failed. -/
structure Watched (σ : Type) where
  store : σ
  failed : Bool := false

namespace Watched

variable {σ α : Type}

/-- Carry an operation out, and see whether it fails. -/
def watch (x : Step σ α) : Step (Watched σ) α := fun w =>
  ⟨(x w.store).result, ⟨(x w.store).state, w.failed || !(x w.store).result.isOk⟩,
    (x w.store).events⟩

theorem unfailed_watch {x : Step σ α} {w : Watched σ} (unfailed : (watch x w).state.failed = false) :
    w.failed = false ∧ (watch x w).result.isOk = true := by
  simpa [watch] using unfailed

variable [Store σ]

instance : Store (Watched σ) where
  supportsTags w := Store.supportsTags w.store
  yields w := Store.yields w.store
  start := watch Store.start
  stop := watch Store.stop
  get key := watch (Store.get key)
  put key value lifetime tags := watch (Store.put key value lifetime tags)
  delete key := watch (Store.delete key)
  holds key := watch (Store.holds key)
  dropTag tag := watch (Store.dropTag tag)
  flush := watch Store.flush
  stats := watch Store.stats

/-- A watched store does what the store does. -/
theorem shows : Store.Shows (store (σ := σ)) where
  supportsTags _ := rfl
  yields _ := rfl
  get _ _ := rfl
  put _ _ _ _ _ := rfl
  delete _ _ := rfl
  holds _ _ := rfl
  dropTag _ _ := rfl
  flush _ := rfl

/-- **A watched store tells** at the end whether an operation has failed. -/
theorem telling (lifetime : Int) : Store.Telling (σ := Watched σ) lifetime (·.failed = false) where
  delete _ _ unfailed := (unfailed_watch unfailed).1
  holds _ _ unfailed := (unfailed_watch unfailed).1
  dropTag _ _ unfailed := (unfailed_watch unfailed).1
  flush _ unfailed := (unfailed_watch unfailed).1
  get _ _ unfailed := unfailed_watch unfailed
  put _ _ _ _ unfailed := unfailed_watch unfailed
  removes _ _ unfailed := (unfailed_watch unfailed).2

theorem consistent (consistent : Store.Consistent σ) : Store.Consistent (Watched σ) where
  get key w none := consistent.get key w.store none
  delete key w there removed := consistent.delete key w.store there removed

/-- What happens to a store happens to it when it is watched. -/
instance {ω : Type} [Service.Surroundings σ ω] : Service.Surroundings (Watched σ) ω where
  occur event w := { w with store := Service.Surroundings.occur event w.store }

end Watched

end Eligibility
