/-
# What an evaluation counts

A service counts the look-ups that were answered and those that were not twice: for itself, and in
its metrics.  The metrics also count how often the engine has returned.  Of these numbers
(`Tally`) an evaluation changes, in each of its parts, no more than one.

| part | comes to | counted |
| --- | --- | --- |
| a look-up | a result | an answer |
| the first look-up | nothing | a miss |
| the look-up under the lock | nothing | |
| the engine | a result | a run |
| anything | a failure | |

Nothing is asked of the store here: an entry may be unreadable or end between two look-ups, and any
operation may fail.
-/

import Eligibility.Proofs.Service.Lasting

namespace Eligibility

namespace Service

/-- What is counted of evaluations: by the service for itself, and in its metrics. -/
structure Tally where
  hits : Nat
  misses : Nat
  listedHits : Nat
  listedMisses : Nat
  /-- How often the engine has returned. -/
  runs : Nat

namespace Tally

/-- What is counted when the service has counted so much for itself. -/
def of (hits misses : Nat) (m : Metrics) : Tally where
  hits := hits
  misses := misses
  listedHits := m.count .hits lookupLabels
  listedMisses := m.count .misses lookupLabels
  runs := m.count .evaluations ["true"] + m.count .evaluations ["false"]

theorem of_hitRatio (hits misses : Nat) (m : Metrics) (x : Double) :
    of hits misses { m with hitRatio := x } = of hits misses m := rfl

/-- A look-up was answered. -/
def answered (n : Tally) : Tally := { n with hits := n.hits + 1, listedHits := n.listedHits + 1 }

/-- A look-up was not answered. -/
def missed (n : Tally) : Tally :=
  { n with misses := n.misses + 1, listedMisses := n.listedMisses + 1 }

/-- The engine has returned. -/
def ran (n : Tally) : Tally := { n with runs := n.runs + 1 }

end Tally

variable {σ α : Type}

/-- What a service has counted. -/
def tally (s : Service σ) : Tally := .of s.hits s.misses s.metrics

@[simp] theorem tally_countHit (s : Service σ) : tally (countHit s) = (tally s).answered := by
  rw [tally, countHit, withRatio, Tally.of_hitRatio]
  simp [tally, Tally.of, Tally.answered, Metrics.count_increment]

@[simp] theorem tally_countMiss (s : Service σ) : tally (countMiss s) = (tally s).missed := by
  rw [tally, countMiss, withRatio, Tally.of_hitRatio]
  simp [tally, Tally.of, Tally.missed, Metrics.count_increment]

theorem tally_counted (passed : Bool) (s : Service σ) :
    tally { s with
      metrics := s.metrics.increment .evaluations [if passed then "true" else "false"] } =
      (tally s).ran := by
  cases passed <;> simp [tally, Tally.of, Tally.ran, Metrics.count_increment, lookupLabels] <;> omega

/-- Counting anything else leaves the tally as it is. -/
theorem tally_increment {c : Counter} (other : c ∉ [Counter.hits, .misses, .evaluations])
    (values : List String) (s : Service σ) :
    tally { s with metrics := s.metrics.increment c values } = tally s := by
  have same : ∀ d ∈ [Counter.hits, .misses, .evaluations], ∀ others,
      (s.metrics.increment c values).count d others = s.metrics.count d others := by
    intro d counted others
    rw [Metrics.count_increment, if_neg]
    rintro ⟨⟩
    exact other counted
  simp [tally, Tally.of, same]

@[simp] theorem tally_report (failure : Failure) (s : Service σ) :
    tally (report failure s).state = tally s := by
  have counted (family : Failure.Family) : tally
      { s with metrics := s.metrics.recordError family.code } = tally s :=
    tally_increment (by decide) _ s
  unfold report
  cases failure.family? with
  | none => rfl
  | some family =>
    dsimp only
    split <;> exact counted family

theorem store_report (failure : Failure) (s : Service σ) :
    (report failure s).state.store = s.store := by
  unfold report
  cases failure.family? with
  | none => rfl
  | some family =>
    dsimp only
    split <;> rfl

/-- A part of an evaluation leaves, within its context, what it leaves by itself. -/
theorem attended_left (criteria : Criteria) (x : Step (Service σ) α) (s : Service σ) :
    tally (attended criteria x s).state = tally (x (openContext criteria s)).state ∧
      (attended criteria x s).state.store = (x (openContext criteria s)).state.store := by
  rw [(attended_apply criteria x s).2]
  split
  · exact ⟨rfl, rfl⟩
  · exact ⟨tally_report _ _, store_report _ _⟩

/-- An action changes the tally as `Q` says, by what it comes to. -/
def Counts (x : Step (Service σ) α) (Q : Tally → Except Failure α → Tally → Prop) : Prop :=
  ∀ s, Q (tally s) (x s).result (tally (x s).state)

namespace Counts

variable {β : Type} {x : Step (Service σ) α} {P Q : Tally → Except Failure α → Tally → Prop}

/-- A chain has counted what its first action has, when that fails, and otherwise what both of its
parts have. -/
theorem bind {f : α → Step (Service σ) β} {T : α → Tally → Except Failure β → Tally → Prop}
    {Q : Tally → Except Failure β → Tally → Prop} (first : Counts x P)
    (rest : ∀ a, Counts (f a) (T a))
    (failed : ∀ n failure m, P n (.error failure) m → Q n (.error failure) m)
    (both : ∀ n a m r m', P n (.ok a) m → T a m r m' → Q n r m') : Counts (x >>= f) Q := by
  intro s
  have here := first s
  rw [Action.bind_apply]
  cases came : (x s).result with
  | error failure =>
    rw [came] at here
    exact failed _ failure _ here
  | ok a =>
    rw [came] at here
    exact both _ a _ _ _ here (rest a _)

/-- For a first action that counts nothing. -/
theorem andThen {f : α → Step (Service σ) β} {Q : Tally → Except Failure β → Tally → Prop}
    (first : Counts x fun n _ m => m = n) (failed : ∀ n failure, Q n (.error failure) n)
    (rest : ∀ a, Counts (f a) Q) : Counts (x >>= f) Q := by
  refine first.bind rest (fun n failure m same => same ▸ failed n failure) ?_
  intro n a m r m' same later
  rwa [same] at later

/-- Within a context an action counts what it counts by itself. -/
theorem attended {criteria : Criteria} (h : Counts x Q) : Counts (attended criteria x) Q := by
  intro s
  rw [(attended_left criteria x s).1, (attended_apply criteria x s).1]
  exact h (openContext criteria s)

end Counts

/-! ### Parts of an evaluation -/

section Parts

variable {settings : Settings} {criteria : Criteria} {subject : Value} {key : String}

theorem counts_inStore {x : Step σ α} : Counts (inStore x) fun n _ m => m = n := fun _ => rfl

theorem counts_note {event : Event} : Counts (σ := σ) (Action.note event) fun n _ m => m = n :=
  fun _ => rfl

theorem counts_accept : Counts (σ := σ) (accept settings subject) fun n r m =>
    r = accepted settings subject ∧ m = n := by
  intro s
  obtain ⟨result, state⟩ := accept_eq settings subject s
  exact ⟨result, congrArg tally state⟩

theorem counts_compute : Counts (σ := σ) (compute settings criteria subject) fun n r m =>
    r = (criteria.evaluate settings subject).result ∧ m = if r.isOk then n.ran else n := by
  have observed : Counts (σ := σ) ((Step.ofTrial (criteria.evaluate settings subject)).ending
      fun s => { s with metrics := s.metrics.observe .zero }) fun n r m =>
        r = (criteria.evaluate settings subject).result ∧ m = n := fun s => ⟨rfl, rfl⟩
  refine observed.bind (T := fun e n r m => r = .ok e ∧ m = n.ran) (fun e s => ?_) ?_ ?_
  · exact ⟨rfl, tally_counted e.passed s⟩
  · rintro n failure m ⟨came, rfl⟩
    exact ⟨came, rfl⟩
  · rintro n e m _ _ ⟨came, rfl⟩ ⟨rfl, rfl⟩
    exact ⟨came, rfl⟩

variable [Store σ]

theorem counts_fetch : Counts (σ := σ) (fetch key) fun n _ m => m = n := by
  refine counts_inStore.andThen (fun _ _ => rfl) fun found => ?_
  cases found with
  | none => exact fun _ => rfl
  | some stored =>
    dsimp only
    split
    · exact fun _ => rfl
    · refine counts_note.andThen (fun _ _ => rfl) fun _ => ?_
      exact counts_inStore.andThen (fun _ _ => rfl) fun _ _ => rfl

theorem counts_lookup (countMisses : Bool) : Counts (σ := σ) (lookup key countMisses)
    fun n r m => m = match r with
      | .ok (some _) => n.answered
      | .ok none => if countMisses then n.missed else n
      | .error _ => n := by
  refine counts_fetch.andThen (fun _ _ => rfl) fun found s => ?_
  cases found with
  | some e => exact tally_countHit s
  | none =>
    cases countMisses with
    | false => rfl
    | true => exact tally_countMiss s

theorem counts_keep {e : Evaluation} :
    Counts (σ := σ) (keep settings criteria key e) fun n _ m => m = n := by
  have read : Counts (σ := σ) (Action.ofExcept e.stored) fun n _ m => m = n := fun _ => rfl
  exact read.andThen (fun _ _ => rfl) fun _ => counts_inStore

/-- What is produced is computed. It may be computed, when the engine returns, and then not be
kept. -/
def Produced (returns : Bool) (n : Tally) (r : Except Failure Evaluation) (m : Tally) : Prop :=
  match r with
  | .ok _ => m = n.ran
  | .error _ => m = n ∨ m = n.ran ∧ returns = true

theorem counts_produce : Counts (σ := σ) (produce settings criteria subject key)
    (Produced (criteria.evaluate settings subject).result.isOk) := by
  refine counts_compute.bind (T := fun _ n _ m => m = n) (fun e => ?_) ?_ ?_
  · refine counts_keep.andThen (fun _ _ => rfl) fun _ => ?_
    exact counts_note.andThen (fun _ _ => rfl) fun _ _ => rfl
  · rintro n failure m ⟨-, same⟩
    exact .inl same
  · rintro n e m r m' ⟨came, rfl⟩ rfl
    cases r with
    | ok _ => rfl
    | error _ => exact .inr ⟨rfl, by rw [← came]; rfl⟩

/-- What is settled is answered or produced. -/
def Settled (returns : Bool) (n : Tally) (r : Except Failure Evaluation) (m : Tally) : Prop :=
  m = n.answered ∧ r.isOk = true ∨ Produced returns n r m

theorem counts_settle : Counts (σ := σ) (settle settings criteria subject key)
    (Settled (criteria.evaluate settings subject).result.isOk) := by
  refine (counts_lookup false).bind (T := fun found? n r m =>
    found?.elim (Produced (criteria.evaluate settings subject).result.isOk n r m)
      fun _ => m = n ∧ r.isOk = true) ?_ (fun _ _ _ same => .inr (.inl same)) ?_
  · intro found?
    cases found? with
    | some e => exact fun _ => ⟨rfl, rfl⟩
    | none => exact counts_produce
  · rintro n found? m r m' rfl later
    cases found? with
    | some e => exact .inl ⟨by rw [later.1], later.2⟩
    | none => exact .inr later

theorem counts_conclude : Counts (σ := σ) (conclude settings criteria subject (.pending key))
    (Settled (criteria.evaluate settings subject).result.isOk) := by
  have settled : Counts (settle settings criteria subject key)
      (Settled (criteria.evaluate settings subject).result.isOk) := counts_settle (σ := σ)
  exact fun s => settled s

/-- The first part of an evaluation through the store is answered, or has looked a key in `K` up in
vain. -/
def Begun (K : String → Prop) (n : Tally) (r : Except Failure Progress) (m : Tally) : Prop :=
  match r with
  | .ok (.done _) => m = n.answered
  | .ok (.pending key) => m = n.missed ∧ K key
  | .error _ => m = n

theorem Begun.imp {K K' : String → Prop} {n m : Tally} {r : Except Failure Progress}
    (begun : Begun K n r m) (imp : ∀ key, K key → K' key) : Begun K' n r m := by
  match r with
  | .ok (.done _) => exact begun
  | .ok (.pending key) => exact ⟨begun.1, imp key begun.2⟩
  | .error _ => exact begun

theorem counts_embark : Counts (σ := σ) (embark settings criteria subject true)
    (Begun fun key => accepted settings subject = .ok () ∧
      keyOf settings criteria subject = .ok key) := by
  have known : Counts (σ := σ) (Action.ofExcept (keyOf settings criteria subject)) fun n r m =>
      r = keyOf settings criteria subject ∧ m = n := fun _ => ⟨rfl, rfl⟩
  have looked (key : String) {rest : Option Evaluation → Step (Service σ) Progress}
      (told : ∀ found?, Counts (rest found?) fun n r m => m = n ∧
        r = .ok (found?.elim (.pending key) .done)) :
      Counts (lookup key true >>= rest) (Begun (· = key)) := by
    refine (counts_lookup true).bind told (fun _ _ _ same => same) ?_
    rintro n found? m r m' rfl ⟨rfl, rfl⟩
    cases found? with
    | some e => rfl
    | none => exact ⟨rfl, rfl⟩
  refine counts_accept.bind (fun _ => known.bind (fun key => looked key fun found? => ?_)
    (fun _ _ _ h => h.2) ?_)
    (fun _ _ _ h => h.2) ?_ (T := fun _ => Begun fun key => keyOf settings criteria subject = .ok key)
  · cases found? <;> exact fun _ => ⟨rfl, rfl⟩
  · rintro n key m r m' ⟨came, rfl⟩ begun
    exact begun.imp fun key' same => same ▸ came.symm
  · rintro n _ m r m' ⟨came, rfl⟩ begun
    exact begun.imp fun key known => ⟨came.symm, known⟩

/-- The first part of an evaluation past the store is all there is to do: every result is one of the
engine. -/
def BegunPast (n : Tally) (r : Except Failure Progress) (m : Tally) : Prop :=
  match r with
  | .ok (.done _) => m = n.ran
  | .ok (.pending _) => False
  | .error _ => m = n

theorem counts_embark_past :
    Counts (σ := σ) (embark settings criteria subject false) BegunPast := by
  refine counts_accept.bind (T := fun _ => BegunPast) (fun _ => ?_) (fun _ _ _ h => h.2) ?_
  · refine counts_compute.bind (T := fun e n r m => r = .ok (.done e) ∧ m = n) ?_ ?_ ?_
    · exact fun _ _ => ⟨rfl, rfl⟩
    · exact fun _ _ _ h => h.2
    · rintro n e m _ _ ⟨-, rfl⟩ ⟨rfl, rfl⟩
      rfl
  · rintro n _ m r m' ⟨-, rfl⟩ later
    exact later

/-- What the rest of an evaluation counts after its first part. -/
def Concluded (returns : Bool) (p : Progress) (n : Tally) (r : Except Failure Evaluation)
    (m : Tally) : Prop :=
  match p with
  | .done _ => m = n ∧ r.isOk = true
  | .pending _ => Settled returns n r m

theorem counts_concluded (p : Progress) : Counts (σ := σ) (conclude settings criteria subject p)
    (Concluded (criteria.evaluate settings subject).result.isOk p) := by
  cases p with
  | done e => exact fun _ => ⟨rfl, rfl⟩
  | pending key => exact counts_conclude

/-- What an evaluation through the store has counted when it comes to an end. -/
theorem counts_evaluate {useStore? : Option Bool}
    (used : useStore?.getD settings.storeResults = true) :
    Counts (σ := σ) (evaluate settings (some criteria) subject useStore?) fun n r m =>
      m = n.answered ∧ r.isOk = true ∨ m = n ∧ r.isOk = false ∨
      accepted settings subject = .ok () ∧ (keyOf settings criteria subject).isOk = true ∧
        Settled (criteria.evaluate settings subject).result.isOk n.missed r m := by
  refine Counts.attended ?_
  rw [used]
  refine counts_embark.bind counts_concluded (fun _ _ _ same => .inr (.inl ⟨same, rfl⟩)) ?_
  rintro n p m r m' first later
  cases p with
  | done e =>
    obtain ⟨rfl, returned⟩ := later
    exact .inl ⟨first, returned⟩
  | pending key =>
    obtain ⟨rfl, passed, known⟩ := first
    exact .inr (.inr ⟨passed, by rw [known]; rfl, later⟩)

/-- What an evaluation past the store has counted when it comes to an end. -/
theorem counts_evaluate_past {useStore? : Option Bool}
    (past : useStore?.getD settings.storeResults = false) :
    Counts (σ := σ) (evaluate settings (some criteria) subject useStore?) fun n r m =>
      m = if r.isOk then n.ran else n := by
  refine Counts.attended ?_
  rw [past]
  refine counts_embark_past.bind counts_concluded ?_ ?_
  · rintro n failure m rfl
    rfl
  · rintro n p m r m' first later
    cases p with
    | done e =>
      obtain ⟨rfl, returned⟩ := later
      rw [returned]
      exact first
    | pending key => exact first.elim

theorem counts_evaluateItem_past : Counts (σ := σ) (evaluateItem settings criteria false subject)
    fun n r m => m = if r.isOk then n.ran else n := by
  refine counts_accept.bind (fun _ => counts_compute) ?_ ?_
  · rintro n failure m ⟨-, rfl⟩
    rfl
  · rintro n _ m r m' ⟨-, rfl⟩ ⟨-, same⟩
    exact same

end Parts

end Service
end Eligibility
