/-
# The accounts of a service

What a service counts is written down turn by turn, for the turns whose evaluations use the store
(`Crowd.ledger`): the evaluations that came to an end, the look-ups that were answered and that were
not, and how often the engine has returned.  These accounts balance (`accounts_balance`).

| in the accounts of a fresh service | |
| --- | --- |
| look-ups | are those that the service tells, and those that its metrics list |
| evaluations that the engine computed | had been missed |
| evaluations that returned | were answered or computed, in every turn |
| what was answered or computed | was returned, if no operation of the store failed and what was computed could be stored |
| look-ups, when evaluations do not overlap | were made by evaluations that returned or that the engine failed |

A look-up that was not answered is counted before the engine runs, so when the engine fails there is
one look-up more than there are evaluations that returned (`missed_without_return`).  The engine
fails a criteria whose identifiers are texts only for its threshold, when that is an integer beyond
every double; without such criteria the look-ups are the evaluations that returned
(`Accounts.Looked.fit`).
-/

import Eligibility.Proofs.Criteria.Magnitude
import Eligibility.Proofs.Service.Accounted
import Eligibility.Proofs.Service.Watched

namespace Eligibility
namespace Service

variable {σ : Type} [Store σ]

/-! ### Calls that the engine does not fail -/

/-- A call whose criteria the engine can handle: the identifiers are texts, and the threshold is not
oversized. -/
structure Call.Fit (call : Call) : Prop where
  typed : call.criteria.Typed
  threshold : ¬call.criteria.threshold.Oversized

theorem Call.Fit.isRaised {call : Call} (fit : call.Fit) (settings : Settings) :
    call.isRaised settings = false := by
  have inRange := Value.asDouble?_eq_tooLarge.not.2 fit.threshold
  obtain ⟨e, came⟩ : ∃ e, (call.criteria.evaluate settings call.subject).result = .ok e :=
    Criteria.exists_evaluate_iff.2 (fit.typed.returning inRange settings)
  have computable : call.isComputable settings = true := by
    rw [Call.isComputable, came]
    rfl
  rw [Call.isRaised, computable, Bool.not_true, Bool.and_false]

/-! ### Postings -/

/-- What was counted in a turn. -/
structure Posting where
  /-- The evaluations that came to an end. -/
  calls : List Call
  hits : Nat
  misses : Nat
  /-- How often the engine has returned. -/
  computed : Nat

namespace Posting

variable (settings : Settings) (p : Posting)

/-- The number of evaluations that returned. -/
def returned : Nat := p.calls.countP (·.returned)

/-- The number of evaluations that the engine failed. -/
def raised : Nat := p.calls.countP (·.isRaised settings)

/-- The number of evaluations that failed for another reason than their subject or the engine. -/
def lost : Nat := p.calls.countP (·.isLost settings)

/-- The evaluations that returned were answered or computed, and what else was computed is lost. -/
def Covered : Prop :=
  p.returned ≤ p.hits + p.computed ∧ p.hits + p.computed ≤ p.returned + p.lost settings

/-- The evaluations that returned are those that were answered or computed, and none is lost. -/
structure Exact : Prop where
  kept : p.lost settings = 0
  returned : p.returned = p.hits + p.computed

/-- Every look-up is one of an evaluation that returned or that the engine failed. -/
def Looked : Prop := p.hits + p.misses = p.returned + p.raised settings

theorem raised_of_fit {p : Posting} (fit : ∀ call ∈ p.calls, call.Fit) : p.raised settings = 0 := by
  refine List.countP_eq_zero.2 fun call member => ?_
  rw [(fit call member).isRaised]
  exact Bool.false_ne_true

end Posting

variable {ω : Type} [Surroundings σ ω] {settings : Settings}

/-- What is counted in a turn. -/
def Turn.posting (settings : Settings) (crowd : Crowd σ) (turn : Turn ω) : Posting :=
  let before := tally crowd.service
  let after := tally (turn.take settings crowd).2.service
  { calls := turn.calls settings crowd
    hits := after.hits - before.hits
    misses := after.misses - before.misses
    computed := after.runs - before.runs }

/-- What is counted in the turns whose evaluations use the store. -/
def Crowd.ledger (settings : Settings) : List (Turn ω) → Crowd σ → List Posting
  | [], _ => []
  | turn :: rest, crowd =>
    let later := ledger settings rest (turn.take settings crowd).2
    if turn.usesStore settings then turn.posting settings crowd :: later else later

/-- What holds of the calls of each turn holds of all that are written down. -/
theorem forall_ledger {P : Call → Prop} {turns : List (Turn ω)}
    (each : ∀ turn ∈ turns, ∀ (crowd : Crowd σ), ∀ call ∈ turn.calls settings crowd, P call)
    (crowd : Crowd σ) : ∀ p ∈ Crowd.ledger settings turns crowd, ∀ call ∈ p.calls, P call := by
  induction turns generalizing crowd with
  | nil => simp [Crowd.ledger]
  | cons turn rest ih =>
    obtain ⟨own, others⟩ := List.forall_mem_cons.1 each
    have later := ih others (turn.take settings crowd).2
    rw [Crowd.ledger]
    split
    · exact List.forall_mem_cons.2 ⟨own crowd, later⟩
    · exact later

/-- No evaluations through the store overlap. -/
def Crowd.Apart (settings : Settings) : List (Turn ω) → Crowd σ → Prop
  | [], _ => True
  | turn :: rest, crowd =>
    (turn.usesStore settings = true → turn.overlaps settings crowd = false) ∧
      Apart settings rest (turn.take settings crowd).2

/-! ### Turns -/

section Postings

variable {turn : Turn ω} {crowd : Crowd σ} {waiting : ℤ}
  (accounted : Accounted settings (tally crowd.service)
    (tally (turn.take settings crowd).2.service) (turn.calls settings crowd) waiting)

include accounted

theorem posting_covered : (turn.posting settings crowd).Covered settings := by
  obtain ⟨-, -, hits, -, runs, least, most, -⟩ := accounted
  simp only [Multiset.coe_countP, Bool.decide_eq_true] at least most
  simp only [Posting.Covered, Posting.returned, Posting.lost, Turn.posting]
  omega

theorem posting_exact
    (none : (turn.calls settings crowd : Multiset Call).countP (·.isLost settings) = 0) :
    (turn.posting settings crowd).Exact settings := by
  obtain ⟨least, most⟩ := posting_covered accounted
  have kept : (turn.posting settings crowd).lost settings = 0 := by
    simpa [Posting.lost, Turn.posting] using none
  exact ⟨kept, by omega⟩

theorem posting_looked (looked : (tally (turn.take settings crowd).2.service).hits +
      (tally (turn.take settings crowd).2.service).misses =
    (tally crowd.service).hits + (tally crowd.service).misses +
      ((turn.calls settings crowd : Multiset Call).countP (·.returned) +
        (turn.calls settings crowd : Multiset Call).countP (·.isRaised settings))) :
    (turn.posting settings crowd).Looked settings := by
  obtain ⟨-, -, hits, misses, -, -, -, -⟩ := accounted
  simp only [Multiset.coe_countP, Bool.decide_eq_true] at looked
  simp only [Posting.Looked, Posting.returned, Posting.raised, Turn.posting]
  omega

end Postings

/-- What is written down of turns agrees with what the service has counted in them. -/
structure Kept (settings : Settings) (crowd last : Crowd σ) (ledger : List Posting) : Prop where
  listedHits : (tally last.service).hits + (tally crowd.service).listedHits =
    (tally crowd.service).hits + (tally last.service).listedHits
  listedMisses : (tally last.service).misses + (tally crowd.service).listedMisses =
    (tally crowd.service).misses + (tally last.service).listedMisses
  hits : (tally last.service).hits = (tally crowd.service).hits + (ledger.map (·.hits)).sum
  misses : (tally last.service).misses = (tally crowd.service).misses + (ledger.map (·.misses)).sum
  covered : ∀ p ∈ ledger, p.Covered settings
  /-- What was computed had been missed before, and what waits has been. -/
  missed : (ledger.map (·.computed)).sum + last.waiting.length ≤
    (ledger.map (·.misses)).sum + crowd.waiting.length

/-- One turn more at the beginning. -/
theorem Kept.cons {turn : Turn ω} {crowd last : Crowd σ} {later : List Posting}
    (accounted : Accounted settings (tally crowd.service)
      (tally (turn.take settings crowd).2.service) (turn.calls settings crowd)
      ((turn.take settings crowd).2.waiting.length - crowd.waiting.length))
    (kept : Kept settings (turn.take settings crowd).2 last later) :
    Kept settings crowd last (turn.posting settings crowd :: later) := by
  have here := posting_covered accounted
  obtain ⟨listedHits, listedMisses, moreHits, moreMisses, moreRuns, -, -, before⟩ := accounted
  obtain ⟨listedHits', listedMisses', hits, misses, covered, missed⟩ := kept
  constructor
  case covered => exact List.forall_mem_cons.2 ⟨here, covered⟩
  case listedHits | listedMisses => omega
  all_goals
    simp only [List.map_cons, List.sum_cons, Turn.posting]
    omega

theorem kept_ledger (turns : List (Turn ω)) (crowd : Crowd σ) (known : crowd.Known settings) :
    Kept settings crowd (Crowd.run settings turns crowd).2 (Crowd.ledger settings turns crowd) := by
  induction turns generalizing crowd with
  | nil => constructor <;> simp [Crowd.run, Crowd.ledger, add_comm]
  | cons turn rest ih =>
    have nothing : Store.Tended (σ := σ) fun _ => True := ⟨by simp, by simp, by simp, by simp⟩
    obtain ⟨passes, known⟩ := passes_take nothing turn (by simp) crowd known fun _ => True.intro
    have kept := ih _ known
    unfold Crowd.run Crowd.ledger
    dsimp only
    cases used : turn.usesStore settings with
    | true =>
      rw [used] at passes
      exact .cons passes.accounted kept
    | false =>
      rw [used] at passes
      obtain ⟨none, runs, same⟩ := passes.past
      obtain ⟨listedHits, listedMisses, hits, misses, covered, missed⟩ := kept
      rw [same] at listedHits listedMisses hits misses
      exact ⟨listedHits, listedMisses, hits, misses, covered, by simp; omega⟩

/-- **When no operation of the store fails in turns**, none has failed before, and every turn
through the store is written down exactly. -/
theorem exact_ledger {I : σ → Prop} (telling : Store.Telling settings.lifetime I)
    (outside : ∀ (event : ω) s, I (Surroundings.occur event s) → I s) (turns : List (Turn ω))
    (crowd : Crowd σ) (known : crowd.Known settings)
    (inv : I (Crowd.run settings turns crowd).2.service.store)
    (storable : ∀ p ∈ Crowd.ledger settings turns crowd, ∀ call ∈ p.calls,
      call.Storable settings) :
    I crowd.service.store ∧ (∀ p ∈ Crowd.ledger settings turns crowd, p.Exact settings) ∧
      (Store.Consistent σ → Crowd.Apart settings turns crowd →
        ∀ p ∈ Crowd.ledger settings turns crowd, p.Looked settings) := by
  induction turns generalizing crowd with
  | nil => exact ⟨inv, by simp [Crowd.ledger], by simp [Crowd.ledger]⟩
  | cons turn rest ih =>
    obtain ⟨passes, known⟩ := passes_take telling.toTended turn (fun event _ => outside event)
      crowd known id
    unfold Crowd.run at inv
    unfold Crowd.ledger at storable ⊢
    dsimp only at inv storable ⊢
    cases used : turn.usesStore settings with
    | true =>
      rw [used] at passes
      simp only [used, if_true, List.forall_mem_cons] at storable ⊢
      obtain ⟨own, others⟩ := storable
      obtain ⟨inv, exact', looked'⟩ := ih _ known inv others
      obtain ⟨inv, none, looked⟩ := passes.unfailing telling inv own
      refine ⟨inv, ⟨posting_exact passes.accounted none, exact'⟩, fun consistent apart => ?_⟩
      refine ⟨posting_looked passes.accounted (looked consistent ?_), looked' consistent apart.2⟩
      exact Bool.eq_false_iff.1 (apart.1 used)
    | false =>
      rw [used] at passes
      simp only [used] at storable ⊢
      obtain ⟨inv, exact', looked'⟩ := ih _ known inv storable
      exact ⟨passes.held_past inv, exact', fun consistent apart => looked' consistent apart.2⟩

/-! ### Fresh services -/

section Shown

variable {τ : Type} [Store τ] [Surroundings τ ω] {φ : τ → σ} (shows : Store.Shows φ)
  (outside : ∀ (event : ω) t, Surroundings.occur event (φ t) = φ (Surroundings.occur event t))

include shows outside

theorem ledger_shown (turns : List (Turn ω)) (crowd : Crowd τ) :
    Crowd.ledger settings turns (crowd.shown φ) = Crowd.ledger settings turns crowd := by
  induction turns generalizing crowd with
  | nil => rfl
  | cons turn rest ih =>
    have posted : turn.posting settings (crowd.shown φ) = turn.posting settings crowd := by
      rw [Turn.posting, Turn.posting, calls_shown shows, shows_take shows outside]
      rfl
    rw [Crowd.ledger, Crowd.ledger, posted, shows_take shows outside, ih]

theorem apart_shown (turns : List (Turn ω)) (crowd : Crowd τ) :
    Crowd.Apart settings turns (crowd.shown φ) ↔ Crowd.Apart settings turns crowd := by
  induction turns generalizing crowd with
  | nil => rfl
  | cons turn rest ih =>
    rw [Crowd.Apart, Crowd.Apart, overlaps_shown shows, shows_take shows outside, ih]

end Shown

namespace Crowd

/-- A fresh service over a store, with fresh metrics. -/
def fresh (store : σ) : Crowd σ := ⟨{ store }, []⟩

/-- A fresh service over a store after turns. -/
def after (settings : Settings) (turns : List (Turn ω)) (store : σ) : Service σ :=
  (run settings turns (fresh store)).2.service

/-- No operation of the store fails in turns of a fresh service. -/
def Unfailing (settings : Settings) (turns : List (Turn ω)) (store : σ) : Prop :=
  (after settings turns (Watched.mk store false)).store.failed = false

end Crowd

/-- What holds of the accounts of a service, whatever its store does. -/
structure Accounts (settings : Settings) (last : Service σ) (ledger : List Posting) : Prop where
  listedHits : last.metrics.count .hits lookupLabels = last.hits
  listedMisses : last.metrics.count .misses lookupLabels = last.misses
  /-- What the service tells is what its metrics list. -/
  told : ∀ listing, (stats settings last).result = .ok listing →
    listing.lookup "hits" = some (.int (last.metrics.count .hits lookupLabels)) ∧
      listing.lookup "misses" = some (.int (last.metrics.count .misses lookupLabels))
  hits : last.hits = (ledger.map (·.hits)).sum
  misses : last.misses = (ledger.map (·.misses)).sum
  computed : (ledger.map (·.computed)).sum ≤ last.misses
  covered : ∀ p ∈ ledger, p.Covered settings

theorem told_of_listed {last : Service σ}
    (hits : last.metrics.count .hits lookupLabels = last.hits)
    (misses : last.metrics.count .misses lookupLabels = last.misses)
    {listing : List (String × Value)} (came : (stats settings last).result = .ok listing) :
    listing.lookup "hits" = some (.int (last.metrics.count .hits lookupLabels)) ∧
      listing.lookup "misses" = some (.int (last.metrics.count .misses lookupLabels)) := by
  obtain ⟨s, now, more, -⟩ := Action.ok_of_bind came
  obtain rfl : last = s := Except.ok.inj now
  obtain ⟨backend, -, more, -⟩ := Action.ok_of_bind more
  obtain rfl := Except.ok.inj more
  rw [hits, misses]
  exact ⟨rfl, rfl⟩

theorem accounts_of_ledger (settings : Settings) (turns : List (Turn ω)) (store : σ) :
    Accounts settings (Crowd.after settings turns store)
      (Crowd.ledger settings turns (.fresh store)) := by
  have known : (Crowd.fresh store).Known settings := nofun
  obtain ⟨listedHits, listedMisses, hits, misses, covered, missed⟩ := kept_ledger turns _ known
  have fresh : tally (Crowd.fresh store).service = ⟨0, 0, 0, 0, 0⟩ := rfl
  rw [fresh] at listedHits listedMisses hits misses
  simp only [Nat.add_zero, Nat.zero_add] at listedHits listedMisses hits misses
  refine ⟨listedHits.symm, listedMisses.symm, fun _ => told_of_listed listedHits.symm
    listedMisses.symm, hits, misses, ?_, covered⟩
  rw [show (Crowd.after settings turns store).misses = _ from misses]
  exact (Nat.le_add_right ..).trans missed

/-- What holds besides when no operation of the store fails. -/
structure Accounts.Exact (settings : Settings) (last : Service σ) (ledger : List Posting) :
    Prop where
  each : ∀ p ∈ ledger, p.Exact settings
  returned : (ledger.map (·.returned)).sum = last.hits + (ledger.map (·.computed)).sum

/-- What holds besides when no evaluations through the store overlap. -/
structure Accounts.Looked (settings : Settings) (last : Service σ) (ledger : List Posting) :
    Prop where
  each : ∀ p ∈ ledger, p.Looked settings
  looked : last.hits + last.misses =
    (ledger.map (·.returned)).sum + (ledger.map (·.raised settings)).sum
  /-- Where the engine can handle every criteria, look-ups are the evaluations that returned. -/
  fit : (∀ p ∈ ledger, ∀ call ∈ p.calls, call.Fit) →
    last.hits + last.misses = (ledger.map (·.returned)).sum

theorem sum_of_each {f g h : Posting → Nat} {ledger : List Posting}
    (each : ∀ p ∈ ledger, f p = g p + h p) :
    (ledger.map f).sum = (ledger.map g).sum + (ledger.map h).sum := by
  rw [List.map_congr_left each, List.sum_map_add]

theorem Accounts.looked_of_each {last : Service σ} {ledger : List Posting}
    (accounts : Accounts settings last ledger) (each : ∀ p ∈ ledger, p.Looked settings) :
    Accounts.Looked settings last ledger := by
  have looked : last.hits + last.misses =
      (ledger.map (·.returned)).sum + (ledger.map (·.raised settings)).sum := by
    rw [accounts.hits, accounts.misses, ← List.sum_map_add]
    exact (congrArg List.sum (List.map_congr_left each)).trans List.sum_map_add
  refine ⟨each, looked, fun fit => ?_⟩
  have none : ledger.map (·.raised settings) = ledger.map fun _ => 0 :=
    List.map_congr_left fun p member => Posting.raised_of_fit settings (fit p member)
  rw [looked, none]
  simp

/-- **The accounts of a service balance.**  Whatever its store does and whatever happens to it, and
however evaluations overlap, a fresh service tells after any turns as many look-ups as its metrics
list, and no more evaluations were computed than had been missed; in every turn, the evaluations
through the store that returned were answered or computed.  When no operation of the store has
failed, nor the storing of a result, they are exactly those that were answered or computed.  When
besides no evaluations through the store overlap, every look-up was made by one that returned or
that the engine failed, and there are as many as evaluations that returned unless a threshold is
oversized. -/
theorem accounts_balance (settings : Settings) (turns : List (Turn ω)) (store : σ) :
    Accounts settings (Crowd.after settings turns store)
        (Crowd.ledger settings turns (.fresh store)) ∧
      (Crowd.Unfailing settings turns store →
        (∀ p ∈ Crowd.ledger settings turns (.fresh store), ∀ call ∈ p.calls,
          call.Storable settings) →
        Accounts.Exact settings (Crowd.after settings turns store)
            (Crowd.ledger settings turns (.fresh store)) ∧
          (Store.Consistent σ → Crowd.Apart settings turns (.fresh store) →
            Accounts.Looked settings (Crowd.after settings turns store)
              (Crowd.ledger settings turns (.fresh store)))) := by
  have accounts := accounts_of_ledger settings turns store
  refine ⟨accounts, fun unfailing storable => ?_⟩
  let watched : Crowd (Watched σ) := .fresh ⟨store, false⟩
  have ledger : Crowd.ledger settings turns (.fresh store) = Crowd.ledger settings turns watched :=
    ledger_shown Watched.shows (fun _ _ => rfl) turns watched
  have known : watched.Known settings := nofun
  rw [ledger] at storable
  obtain ⟨-, exact', looked⟩ := exact_ledger (Watched.telling settings.lifetime)
    (fun _ _ => id) turns watched known unfailing storable
  rw [← ledger] at exact' looked
  refine ⟨⟨exact', ?_⟩, fun consistent apart => ?_⟩
  · rw [accounts.hits]
    exact sum_of_each fun p member => (exact' p member).returned
  · exact accounts.looked_of_each (looked (Watched.consistent consistent)
      ((apart_shown Watched.shows (fun _ _ => rfl) turns watched).1 apart))

/-- Evaluations through the store and past it, one of them refused, between which results are
dropped and time passes. -/
def visits : List (Turn Double) :=
  [.move (.evaluate (some adults) twenty none), .move (.evaluate (some adults) twenty (some false)),
    .move (.dropCriteria "adults"), .move (.evaluate (some adults) (.text "twenty") none),
    .move (.outside (.ofNat 60)), .move (.evaluate (some adults) twenty none)]

theorem apart_visits : Crowd.Apart {} visits (.fresh ({} : Memory)) :=
  ⟨fun _ => rfl, fun _ => rfl, fun _ => rfl, fun _ => rfl, fun _ => rfl, fun _ => rfl, True.intro⟩

theorem typed_adults : adults.Typed := by
  refine ⟨⟨_, rfl⟩, nofun, fun rule member => ?_⟩
  obtain rfl := List.mem_singleton.1 member
  exact ⟨⟨_, rfl⟩, .inl rfl⟩

theorem fit_visits : ∀ turn ∈ visits, ∀ (crowd : Crowd Memory), ∀ call ∈ turn.calls {} crowd,
    call.Fit := by
  have fit (subject : Value) (returned : Bool) : Call.Fit ⟨adults, subject, returned⟩ :=
    ⟨typed_adults, fun ⟨n, no, _⟩ => nomatch no⟩
  intro turn member crowd call among
  simp only [visits, List.mem_cons, List.not_mem_nil, or_false] at member
  rcases member with rfl | rfl | rfl | rfl | rfl | rfl
  case inr.inr.inl | inr.inr.inr.inr.inl => cases among
  all_goals
    obtain rfl := List.mem_singleton.1 among
    exact fit _ _

/-- The requirements can be met: three evaluations through the store come to an end, of which one is
refused, and two look-ups are counted. -/
theorem accounts_balance_visits :
    Crowd.Unfailing {} visits ({} : Memory) ∧
      ((Crowd.ledger {} visits (.fresh ({} : Memory))).flatMap (·.calls)).map (·.returned) =
        [true, false, true] ∧
      Accounts.Exact {} (Crowd.after {} visits ({} : Memory))
        (Crowd.ledger {} visits (.fresh ({} : Memory))) ∧
      Accounts.Looked {} (Crowd.after {} visits ({} : Memory))
        (Crowd.ledger {} visits (.fresh ({} : Memory))) ∧
      (Crowd.after {} visits ({} : Memory)).hits + (Crowd.after {} visits ({} : Memory)).misses =
        ((Crowd.ledger {} visits (.fresh ({} : Memory))).map (·.returned)).sum := by
  have unfailing : Crowd.Unfailing {} visits ({} : Memory) := by
    unfold Crowd.Unfailing
    decide +kernel
  have ended : ((Crowd.ledger {} visits (.fresh ({} : Memory))).flatMap (·.calls)).map
      (·.returned) = [true, false, true] := by
    decide +kernel
  -- The call that failed had nothing to look up.
  have refused : ∀ p ∈ Crowd.ledger {} visits (.fresh ({} : Memory)), ∀ call ∈ p.calls,
      call.returned = false → call.looksUp {} = false := by
    decide +kernel
  have fit : ∀ p ∈ Crowd.ledger {} visits (.fresh ({} : Memory)), ∀ call ∈ p.calls, call.Fit :=
    forall_ledger fit_visits _
  obtain ⟨exactly, consistently⟩ := (accounts_balance {} visits ({} : Memory)).2 unfailing
    fun p member call among failed looks =>
      absurd looks (Bool.eq_false_iff.1 (refused p member call among failed))
  have looked := consistently Memory.consistent apart_visits
  exact ⟨unfailing, ended, exactly, looked, looked.fit fit⟩

/-- A criteria whose threshold is no double. -/
def unreachable : Criteria := { adults with threshold := .int (10 ^ 400) }

theorem raised_unreachable : (unreachable.evaluate {} twenty).result.isOk = false := by
  decide +kernel

/-- An evaluation through the store that the engine fails. -/
def failing : List (Turn Double) := [.move (.evaluate (some unreachable) twenty none)]

/-- **More look-ups than returns.** Without overlaps and with no failure of the store, a look-up is
counted although no evaluation has returned: the engine fails for an oversized threshold. -/
theorem missed_without_return :
    unreachable.Typed ∧ unreachable.threshold.Oversized ∧
      Crowd.Unfailing {} failing ({} : Memory) ∧
      (∀ p ∈ Crowd.ledger {} failing (.fresh ({} : Memory)), ∀ call ∈ p.calls,
        call.Storable {}) ∧
      Crowd.Apart {} failing (.fresh ({} : Memory)) ∧
      (Crowd.after {} failing ({} : Memory)).hits + (Crowd.after {} failing ({} : Memory)).misses ≠
        ((Crowd.ledger {} failing (.fresh ({} : Memory))).map (·.returned)).sum := by
  refine ⟨?_, ⟨_, rfl, by decide +kernel⟩, ?_, ?_, ⟨fun _ => rfl, True.intro⟩, ?_⟩
  · exact ⟨typed_adults.criteriaId, typed_adults.groups, typed_adults.rules⟩
  · unfold Crowd.Unfailing
    decide +kernel
  · intro p member call among _ _ e direct
    obtain rfl := List.mem_singleton.1 member
    obtain rfl := List.mem_singleton.1 among
    have raised := raised_unreachable
    rw [show (unreachable.evaluate {} twenty).result = .ok e from direct] at raised
    cases raised
  · decide +kernel

end Service
end Eligibility
