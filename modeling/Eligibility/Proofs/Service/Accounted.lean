/-
# What passages count

Along any sequence of passages through the store, however evaluations overlap, a look-up is counted
by the service as often as in its metrics, every call that returned was answered or computed, and
what was computed had been missed before (`Passes.accounted`).  Whatever happens past the store
changes none of that (`Passes.past`).

When no operation of the store fails, what was computed was also returned, and calls that do not
overlap count one look-up each, if they returned or the engine failed them (`Passes.unfailing`).
-/

import Eligibility.Proofs.Service.Reliable

namespace Eligibility
namespace Service

variable {σ : Type} [Store σ]

/-- What calls through the store add to a tally. -/
structure Accounted (settings : Settings) (n m : Tally) (calls : Multiset Call) (waiting : ℤ) :
    Prop where
  listedHits : m.hits + n.listedHits = n.hits + m.listedHits
  listedMisses : m.misses + n.listedMisses = n.misses + m.listedMisses
  hits : n.hits ≤ m.hits
  misses : n.misses ≤ m.misses
  runs : n.runs ≤ m.runs
  /-- Each call that returned was answered or computed. -/
  least : n.hits + n.runs + calls.countP (·.returned) ≤ m.hits + m.runs
  /-- What else was computed is lost. -/
  most : m.hits + m.runs ≤
    n.hits + n.runs + calls.countP (·.returned) + calls.countP (·.isLost settings)
  /-- What was computed had been missed, and what waits has been. -/
  missed : (m.runs : ℤ) + waiting + n.misses ≤ m.misses + n.runs

namespace Accounted

variable {settings : Settings} {n m l : Tally} {calls later : Multiset Call} {waiting more : ℤ}

theorem refl (settings : Settings) (n : Tally) : Accounted settings n n 0 0 := by
  constructor <;> simp [add_comm]

theorem trans (first : Accounted settings n m calls waiting)
    (rest : Accounted settings m l later more) :
    Accounted settings n l (calls + later) (waiting + more) := by
  obtain ⟨_, _, _, _, _, _, _, _⟩ := first
  obtain ⟨_, _, _, _, _, _, _, _⟩ := rest
  constructor
  case least | most =>
    simp only [Multiset.countP_add]
    omega
  all_goals omega

variable {criteria : Criteria} {subject : Value}

/-- A call that was answered. -/
theorem answered : Accounted settings n n.answered {⟨criteria, subject, true⟩} 0 := by
  constructor <;> simp [Tally.answered, Call.isLost, ← Multiset.cons_zero] <;> omega

/-- A call that was computed. -/
theorem ran : Accounted settings n n.ran {⟨criteria, subject, true⟩} (-1) := by
  constructor <;> simp [Tally.ran, Call.isLost, ← Multiset.cons_zero] <;> omega

/-- A call that failed, and nothing was counted. -/
theorem failed : Accounted settings n n {⟨criteria, subject, false⟩} 0 := by
  constructor <;> simp [← Multiset.cons_zero, add_comm]

/-- A call that was computed and then lost. -/
theorem lost (isLost : Call.isLost settings ⟨criteria, subject, false⟩ = true) :
    Accounted settings n n.ran {⟨criteria, subject, false⟩} (-1) := by
  constructor <;> simp [Tally.ran, isLost, ← Multiset.cons_zero] <;> omega

/-- A look-up that was not answered, after which the call waits. -/
theorem waits : Accounted settings n n.missed 0 1 := by
  constructor <;> simp [Tally.missed] <;> omega

/-- Fewer wait than may. -/
theorem mono (h : Accounted settings n m calls waiting) (fewer : more ≤ waiting) :
    Accounted settings n m calls more :=
  { h with missed := by have := h.missed; omega }

theorem begun {K : String → Prop} {r : Except Failure Progress} (begun : Begun K n r m) :
    Accounted settings n m (Call.ofBegun criteria subject r) (Service.waits r) := by
  match r with
  | .ok (.done e) =>
    obtain rfl : m = n.answered := begun
    exact answered
  | .ok (.pending key) => exact begun.1 ▸ waits
  | .error failure =>
    obtain rfl : m = n := begun
    exact failed

/-- A call that waited is answered or produced. -/
theorem settled {r : Except Failure Evaluation} (passed : accepted settings subject = .ok ())
    (known : (keyOf settings criteria subject).isOk = true)
    (settled : Settled (criteria.evaluate settings subject).result.isOk n r m) :
    Accounted settings n m {.of criteria subject r} (-1) := by
  rcases settled with ⟨rfl, returned⟩ | produced
  · cases r with
    | ok e => exact answered.mono (by decide)
    | error failure => cases returned
  · cases r with
    | ok e =>
      obtain rfl : m = n.ran := produced
      exact ran
    | error failure =>
      rcases produced with rfl | ⟨rfl, computable⟩
      · exact failed.mono (by decide)
      · refine lost ?_
        rw [Call.isLost, Call.looksUp, passed, known, Call.isComputable, computable]
        rfl

end Accounted

/-- **What passes through the store is accounted for.** -/
theorem Passes.accounted {settings : Settings} {I : σ → Prop} {together : Prop} {s t : Service σ}
    {calls : Multiset Call} {waiting : ℤ}
    (passes : Passes settings I true together s t calls waiting) :
    Accounted settings (tally s) (tally t) calls waiting := by
  induction passes with
  | quiet same held => exact same ▸ .refl settings _
  | @evaluate criteria subject useStore? s used =>
    have counts : Counts (σ := σ) (Service.evaluate settings (some criteria) subject useStore?) _ :=
      counts_evaluate used
    have counted := counts s
    generalize (Service.evaluate settings (some criteria) subject useStore? s).result = r at counted ⊢
    rcases counted with ⟨same, returned⟩ | ⟨same, failed⟩ | ⟨passed, known, settled⟩
    · rw [same, Call.of, returned]
      exact .answered
    · rw [same, Call.of, failed]
      exact .failed
    · exact Accounted.waits.trans (.settled passed known settled)
  | item past => cases past
  | embark overlaps => exact .begun (counts_embark.attended _)
  | conclude overlaps used passed known =>
    exact .settled passed (by rw [known]; rfl) (counts_conclude.attended _)
  | trans first rest ih ih' => exact ih.trans ih'

/-- Past the store only runs of the engine are counted. -/
theorem Passes.past {settings : Settings} {I : σ → Prop} {together : Prop} {s t : Service σ}
    {calls : Multiset Call} {waiting : ℤ}
    (passes : Passes settings I false together s t calls waiting) :
    waiting = 0 ∧ ∃ runs, tally t = { tally s with runs } := by
  have ran {n m : Tally} {r : Except Failure Evaluation} (counted : m = if r.isOk then n.ran else n) :
      ∃ runs, m = { n with runs } := by
    subst counted
    split <;> exact ⟨_, rfl⟩
  induction passes with
  | quiet same held => exact ⟨rfl, _, same⟩
  | evaluate past => exact ⟨rfl, ran (counts_evaluate_past past _)⟩
  | item past => exact ⟨rfl, ran (counts_evaluateItem_past _)⟩
  | @embark criteria subject s overlaps =>
    have counts : Counts (σ := σ) (attended criteria (Service.embark settings criteria subject false))
        BegunPast := counts_embark_past.attended
    have begun := counts s
    match came : (attended criteria (Service.embark settings criteria subject false) s).result with
    | .ok (.done e) =>
      rw [came] at begun
      exact ⟨rfl, _, begun⟩
    | .ok (.pending key) =>
      rw [came] at begun
      exact begun.elim
    | .error failure =>
      rw [came] at begun
      exact ⟨rfl, _, begun⟩
  | conclude overlaps used => cases used
  | trans first rest ih ih' =>
    obtain ⟨rfl, runs, same⟩ := ih
    obtain ⟨rfl, runs', same'⟩ := ih'
    exact ⟨rfl, runs', by rw [same', same]⟩

section Past

variable {settings : Settings} {criteria : Criteria} {subject : Value} {I : σ → Prop}

/-- Past the store there is but one part, and nothing is asked of the store. -/
theorem keeps_embark_past : Action.Keeps (OfStore I) (embark (σ := σ) settings criteria subject false)
    fun progress => ∃ e, progress = .done e :=
  keeps_accept.andThen fun _ => keeps_compute.trivial.andThen fun e =>
    Action.Keeps.note.andThen fun _ => .pure ⟨e, rfl⟩

theorem keeps_evaluate_past {useStore? : Option Bool}
    (past : useStore?.getD settings.storeResults = false) :
    Action.Keeps (OfStore I) (evaluate (σ := σ) settings (some criteria) subject useStore?)
      fun _ => True := by
  rw [evaluate, past]
  refine keeps_attended (keeps_embark_past.bind ?_)
  rintro _ ⟨e, rfl⟩
  exact .pure True.intro

theorem keeps_evaluateItem_past :
    Action.Keeps (OfStore I) (evaluateItem (σ := σ) settings criteria false subject) fun _ => True :=
  keeps_accept.andThen fun _ => keeps_compute.trivial

/-- Passages past the store fail no operation of it. -/
theorem Passes.held_past {together : Prop} {s t : Service σ} {calls : Multiset Call} {waiting : ℤ}
    (passes : Passes settings I false together s t calls waiting) : I t.store → I s.store := by
  have left {α : Type} {x : Step (Service σ) α} {s : Service σ}
      (kept : Action.Keeps (OfStore (· = s.store)) x fun _ => True) (inv : I (x s).state.store) :
      I s.store :=
    (Serves.leaving (Q := fun _ _ => True) kept True.intro inv).1
  induction passes with
  | quiet same held => exact held
  | evaluate past => exact left (keeps_evaluate_past past)
  | item past => exact left keeps_evaluateItem_past
  | embark overlaps => exact left (keeps_attended keeps_embark_past).trivial
  | conclude overlaps used => cases used
  | trans first rest ih ih' => exact ih ∘ ih'

end Past

theorem countP_singleton (p : Call → Bool) (call : Call) :
    ({call} : Multiset Call).countP (p ·) = (p call).toNat := by
  cases came : p call <;> simp [← Multiset.cons_zero, came]

/-- **When no operation of the store fails**, no call is lost, and if the store is consistent and
calls do not overlap, they count one look-up each, if they returned or the engine failed them. -/
theorem Passes.unfailing {settings : Settings} {I : σ → Prop} {together : Prop} {s t : Service σ}
    {calls : Multiset Call} {waiting : ℤ} (telling : Store.Telling settings.lifetime I)
    (passes : Passes settings I true together s t calls waiting) (inv : I t.store)
    (storable : ∀ call ∈ calls, call.Storable settings) :
    I s.store ∧ calls.countP (·.isLost settings) = 0 ∧
      (Store.Consistent σ → ¬together →
        (tally t).hits + (tally t).misses = (tally s).hits + (tally s).misses +
          (calls.countP (·.returned) + calls.countP (·.isRaised settings))) := by
  induction passes with
  | quiet same held => exact ⟨held inv, rfl, fun _ _ => by rw [same]; rfl⟩
  | @evaluate criteria subject useStore? s used =>
    obtain ⟨held, balanced⟩ := evaluate_reliable telling used inv
    obtain ⟨kept, looked⟩ := balanced (storable (.of criteria subject _) (Multiset.mem_singleton_self _))
    rw [countP_singleton, countP_singleton Call.returned, countP_singleton (·.isRaised settings)]
    exact ⟨held, congrArg Bool.toNat kept, fun consistent _ => looked consistent⟩
  | item past => cases past
  | embark overlaps =>
    obtain ⟨held, none⟩ := begun_reliable telling inv
    refine ⟨held, ?_, fun _ apart => absurd overlaps apart⟩
    exact Multiset.countP_eq_zero.2 fun call member => by simp [none call member]
  | @conclude criteria subject key s overlaps used passed known =>
    obtain ⟨held, none⟩ := concluded_reliable telling key inv
    rw [countP_singleton]
    refine ⟨held, congrArg Bool.toNat (none ?_), fun _ apart => absurd overlaps apart⟩
    exact storable (.of criteria subject _) (Multiset.mem_singleton_self _)
  | trans first rest ih ih' =>
    obtain ⟨inv, none', looked'⟩ := ih' inv fun call member => storable call (by simp [member])
    obtain ⟨inv, none, looked⟩ := ih inv fun call member => storable call (by simp [member])
    refine ⟨inv, by rw [Multiset.countP_add, none, none'], fun consistent apart => ?_⟩
    have := looked consistent apart
    have := looked' consistent apart
    rw [Multiset.countP_add, Multiset.countP_add]
    omega

end Service
end Eligibility
