/-
# Evaluations through a store that does not fail

Whether an operation of a store fails is known when it is carried out, so a run in which none fails
is told by its end: by something that holds of the store as long as no operation has failed
(`Store.Telling`).  A store is consistent when a key that was looked up in vain, or removed, is not
found right afterwards (`Store.Consistent`).  Entries may end, be dropped or be overwritten from
outside between any two operations of different evaluations.

If no operation of such a store fails in an evaluation that is not disturbed, a look-up is counted,
as answered or as missed, exactly when the subject is accepted and has a key, and the evaluation
fails then only when the engine does or the result cannot be stored (`evaluate_reliable`).
-/

import Eligibility.Proofs.Service.Passage

namespace Eligibility

/-- `I` holds of a store only as long as no operation that an evaluation waits for has failed. -/
structure Store.Telling {σ : Type} [Store σ] (lifetime : Int) (I : σ → Prop) : Prop
    extends Store.Tended I where
  get : ∀ key s, I (Store.get key s).state → I s ∧ (Store.get key s).result.isOk = true
  put : ∀ key value tags s, I (Store.put key value lifetime tags s).state →
    I s ∧ (Store.put key value lifetime tags s).result.isOk = true
  removes : ∀ key s, I (Store.delete key s).state → (Store.delete key s).result.isOk = true

/-- A key that was not found, or was removed, is not found right afterwards. -/
structure Store.Consistent (σ : Type) [Store σ] : Prop where
  get : ∀ key (s : σ), (Store.get key s).result = .ok none →
    ∀ value, (Store.get key (Store.get key s).state).result ≠ .ok (some value)
  delete : ∀ key (s : σ) there, (Store.delete key s).result = .ok there →
    ∀ value, (Store.get key (Store.delete key s).state).result ≠ .ok (some value)

namespace Service

variable {σ α β : Type}

/-- When `I` holds of the store after an action, it has held before, and the action has ended in
`Q`. -/
def Serves (I : σ → Prop) (x : Step (Service σ) α) (s : Service σ)
    (Q : Except Failure α → Service σ → Prop) : Prop :=
  I (x s).state.store → I s.store ∧ Q (x s).result (x s).state

namespace Serves

variable {I : σ → Prop} {x : Step (Service σ) α} {s : Service σ}
  {P Q : Except Failure α → Service σ → Prop}

theorem pure {a : α} (here : Q (.ok a) s) : Serves I (Pure.pure a) s Q := fun inv => ⟨inv, here⟩

theorem noting {event : Event} {f : Unit → Step (Service σ) α} (rest : Serves I (f ()) s Q) :
    Serves I (Action.note event >>= f) s Q := rest

theorem modifying {g : Service σ → Service σ} (same : (g s).store = s.store)
    {f : Unit → Step (Service σ) α} (rest : Serves I (f ()) (g s) Q) :
    Serves I (Action.modify g >>= f) s Q := fun inv => same ▸ rest inv

theorem bind {Q : Except Failure β → Service σ → Prop} {f : α → Step (Service σ) β}
    (first : Serves I x s P)
    (failed : ∀ failure, P (.error failure) (x s).state → Q (.error failure) (x s).state)
    (rest : ∀ a, (x s).result = .ok a → Serves I (f a) (x s).state Q) :
    Serves I (x >>= f) s Q := by
  unfold Serves at first rest ⊢
  rw [Action.bind_apply]
  cases came : (x s).result with
  | error failure =>
    rw [came] at first
    exact fun inv => ⟨(first inv).1, failed failure (first inv).2⟩
  | ok a =>
    intro inv
    obtain ⟨inv, here⟩ := rest a came inv
    exact ⟨(first inv).1, here⟩

/-- What an action has come to whatever the store does. -/
theorem also (h : Serves I x s P) (always : Q (x s).result (x s).state) :
    Serves I x s fun r t => P r t ∧ Q r t :=
  fun inv => ⟨(h inv).1, (h inv).2, always⟩

/-- An action that leaves the store as it is. -/
theorem leaving (left : Action.Keeps (OfStore (· = s.store)) x fun _ => True)
    (here : Q (x s).result (x s).state) : Serves I x s Q := by
  have same : (x s).state.store = s.store := (left s rfl).1
  exact fun inv => ⟨same ▸ inv, here⟩

end Serves

/-- Whatever the engine makes of a pair can be stored. -/
def Storable (settings : Settings) (criteria : Criteria) (subject : Value) : Prop :=
  ∀ e, Direct settings criteria subject e → e.stored.isOk = true

variable [Store σ] {settings : Settings} {criteria : Criteria} {subject : Value}
  {key : String} {I : σ → Prop} {s : Service σ}

/-! ### Keys that are not there -/

/-- A look-up of the key would find nothing. -/
def Lacks (key : String) (s : Service σ) : Prop :=
  ∀ value, (Store.get key s.store).result ≠ .ok (some value)

section Lacking

variable (consistent : Store.Consistent σ)

include consistent

theorem lacks_fetch (came : (fetch key s).result = .ok none) : Lacks key (fetch key s).state := by
  obtain ⟨found?, got, more, state⟩ := Action.ok_of_bind came
  rw [fetch, state]
  cases found? with
  | none => exact consistent.get key s.store got
  | some stored =>
    dsimp only at more ⊢
    cases read : Evaluation.ofStored? stored with
    | some e =>
      rw [read] at more
      cases more
    | none =>
      rw [read] at more
      obtain ⟨_, _, more, state⟩ := Action.ok_of_bind more
      obtain ⟨there, removed, -, state'⟩ := Action.ok_of_bind more
      dsimp only
      rw [state, state']
      exact consistent.delete key _ there removed

theorem lacks_lookup {countMisses : Bool} (came : (lookup key countMisses s).result = .ok none) :
    Lacks key (lookup key countMisses s).state := by
  obtain ⟨found?, fetched, more, state⟩ := Action.ok_of_bind came
  rw [lookup, state]
  cases found? with
  | some e => cases more
  | none => cases countMisses <;> exact lacks_fetch consistent fetched

theorem lacks_embark (came : (embark settings criteria subject true s).result = .ok (.pending key)) :
    Lacks key (embark settings criteria subject true s).state := by
  obtain ⟨_, -, more, state⟩ := Action.ok_of_bind came
  obtain ⟨key', -, more, state'⟩ := Action.ok_of_bind more
  obtain ⟨found?, looked, more, state''⟩ := Action.ok_of_bind more
  rw [embark, state, if_pos rfl, state', state'']
  cases found? with
  | some e => cases more
  | none =>
    obtain rfl : key' = key := Progress.pending.inj (Except.ok.inj more)
    exact lacks_lookup consistent looked

end Lacking

/-- A key that is not there is not found. -/
theorem lookup_lacking (lacks : Lacks key s) (countMisses : Bool) (e : Evaluation) :
    (lookup key countMisses s).result ≠ .ok (some e) := by
  intro came
  obtain ⟨found?, fetched, more, -⟩ := Action.ok_of_bind came
  cases found? with
  | none => cases countMisses <;> cases more
  | some e =>
    obtain ⟨stored?, got, more, -⟩ := Action.ok_of_bind fetched
    cases stored? with
    | none => cases more
    | some stored => exact lacks stored got

/-- What is settled under a key that is not there is produced. -/
theorem produced_of_lacks (lacks : Lacks key s) :
    Produced (criteria.evaluate settings subject).result.isOk (tally s)
      (settle settings criteria subject key s).result
      (tally (settle settings criteria subject key s).state) := by
  have counted : Counts (σ := σ) (lookup key false) _ := counts_lookup false
  have looked := counted s
  rw [settle_eq, Action.bind_apply]
  cases came : (lookup key false s).result with
  | error failure =>
    rw [came] at looked
    exact .inl looked
  | ok found? =>
    rw [came] at looked
    cases found? with
    | some e => exact absurd came (lookup_lacking lacks false e)
    | none =>
      rw [← show tally (lookup key false s).state = tally s from looked]
      exact counts_produce (lookup key false s).state

/-! ### Parts that do not fail -/

section Parts

/-- The first part of an evaluation fails only when its subject is not accepted or has no key. -/
def Begins (settings : Settings) (criteria : Criteria) (subject : Value) :
    Except Failure Progress → Prop
  | .ok _ => True
  | .error _ => accepted settings subject = .ok () → (keyOf settings criteria subject).isOk = false

/-- What can be stored is returned when the engine returns. -/
def Returns (settings : Settings) (criteria : Criteria) (subject : Value)
    (r : Except Failure Evaluation) : Prop :=
  Storable settings criteria subject → (criteria.evaluate settings subject).result.isOk = true →
    r.isOk = true

variable (telling : Store.Telling settings.lifetime I)

include telling

theorem serves_fetch (key : String) : Serves I (fetch key) s fun r _ => r.isOk = true := by
  have got : Serves I (inStore (Store.get key)) s fun r _ => r.isOk = true :=
    telling.get key s.store
  refine got.bind (fun _ no => nomatch no) fun found? _ => ?_
  cases found? with
  | none => exact .pure rfl
  | some stored =>
    dsimp only
    cases Evaluation.ofStored? stored with
    | some e => exact .pure rfl
    | none =>
      have removed (t : Service σ) :
          Serves I (inStore (Store.delete key)) t fun r _ => r.isOk = true :=
        fun inv => ⟨telling.delete key t.store inv, telling.removes key t.store inv⟩
      exact .noting ((removed _).bind (fun _ no => nomatch no) fun _ _ => .pure rfl)

theorem serves_lookup (key : String) (countMisses : Bool) :
    Serves I (lookup key countMisses) s fun r _ => r.isOk = true := by
  refine (serves_fetch telling key).bind (fun _ no => nomatch no) fun found? _ => ?_
  cases found? with
  | some e => exact .modifying rfl (.pure rfl)
  | none =>
    cases countMisses with
    | false => exact .pure rfl
    | true => exact .modifying rfl (.pure rfl)

/-- What is computed is kept and returned. -/
theorem serves_produce (key : String) :
    Serves I (produce settings criteria subject key) s fun r _ =>
      Returns settings criteria subject r := by
  have computed : Serves I (compute settings criteria subject) s fun r _ =>
      r = (criteria.evaluate settings subject).result :=
    .leaving keeps_compute.trivial (result_compute settings criteria subject s)
  refine computed.bind (fun failure came _ => ?_) fun e came => ?_
  · rw [← came]
    exact id
  have direct : Direct settings criteria subject e :=
    (result_compute settings criteria subject s).symm.trans came
  have kept (t : Service σ) : Serves I (keep settings criteria key e) t fun r _ =>
      Storable settings criteria subject → r.isOk = true := by
    refine Serves.bind (.leaving Action.Keeps.ofExcept.trivial rfl) (fun failure here => ?_)
      (fun text _ inv => ?_) (P := fun r _ => r = e.stored)
    · intro storable
      have stored := storable e direct
      rw [← here] at stored
      cases stored
    · obtain ⟨inv, put⟩ := telling.put key text (tagsOf criteria) t.store inv
      exact ⟨inv, fun _ => put⟩
  refine (kept _).bind (fun _ no storable _ => ?_) fun _ _ => .noting (.pure fun _ _ => rfl)
  exact nomatch no storable

theorem serves_settle (key : String) :
    Serves I (settle settings criteria subject key) s fun r _ =>
      Returns settings criteria subject r := by
  rw [settle_eq]
  refine (serves_lookup telling key false).bind (fun _ no => nomatch no) fun found? _ => ?_
  cases found? with
  | some e => exact .noting (.pure fun _ _ => rfl)
  | none => exact serves_produce telling key

theorem serves_embark : Serves I (embark settings criteria subject true) s fun r _ =>
    Begins settings criteria subject r := by
  have passed : Serves I (accept settings subject) s fun r _ => r = accepted settings subject :=
    .leaving keeps_accept (accept_eq settings subject s).1
  refine passed.bind (fun failure came passed => ?_) fun _ _ => ?_
  · cases came.trans passed
  refine Serves.bind (.leaving Action.Keeps.ofExcept.trivial rfl) (fun failure came _ => ?_)
    (fun key _ => ?_) (P := fun r _ => r = keyOf settings criteria subject)
  · rw [← came]
    rfl
  refine (serves_lookup telling key true).bind (fun _ no => nomatch no) fun found? _ => ?_
  cases found? with
  | some e => exact .noting (.pure True.intro)
  | none => exact .modifying rfl (.pure True.intro)

end Parts

/-! ### Evaluations -/

namespace Call

variable (settings : Settings) (call : Call)

/-- Whether the subject is accepted and has a key, so that the key is looked up. -/
def looksUp : Bool :=
  (accepted settings call.subject).isOk && (keyOf settings call.criteria call.subject).isOk

/-- Whether the engine returns. -/
def isComputable : Bool := (call.criteria.evaluate settings call.subject).result.isOk

/-- A call failed after its look-up because the engine did. -/
def isRaised : Bool := !call.returned && call.looksUp settings && !call.isComputable settings

/-- A call failed though nothing was wrong with its subject, nor with what the engine makes of it:
an operation of the store failed, or the result could not be stored. -/
def isLost : Bool := !call.returned && call.looksUp settings && call.isComputable settings

/-- What a failed call should have stored, once its key had been looked up, could have been
stored. -/
def Storable : Prop :=
  call.returned = false → call.looksUp settings = true →
    Service.Storable settings call.criteria call.subject

end Call

/-- A subject that is not accepted or has no key is not looked up. -/
theorem looksUp_of_begins {failure : Failure} (refused : Begins settings criteria subject (.error failure))
    (returned : Bool) : Call.looksUp settings ⟨criteria, subject, returned⟩ = false := by
  unfold Call.looksUp
  cases passed : accepted settings subject with
  | error fault => rfl
  | ok _ => rw [refused passed, Bool.and_false]

/-- What the engine returns is not lost. -/
theorem isLost_of_returns {r : Except Failure Evaluation}
    (returns : Returns settings criteria subject r)
    (storable : (Call.of criteria subject r).Storable settings) :
    (Call.of criteria subject r).isLost settings = false := by
  cases r with
  | ok e => rfl
  | error failure =>
    refine Bool.eq_false_iff.2 fun lost => ?_
    simp only [Call.isLost, Bool.and_eq_true] at lost
    obtain ⟨⟨-, looked⟩, computable⟩ := lost
    exact nomatch returns (storable rfl looked) computable

omit [Store σ] in
theorem serves_attended {x : Step (Service σ) α} {Q : Except Failure α → Tally → Prop}
    (h : Serves I x (openContext criteria s) fun r t => Q r (tally t)) :
    Serves I (attended criteria x) s fun r t => Q r (tally t) := by
  obtain ⟨counted, kept⟩ := attended_left criteria x s
  unfold Serves
  dsimp only
  rw [kept, counted, (attended_apply criteria x s).1]
  exact h

/-- A call counts one look-up when it returned, or when the engine failed it. -/
def Balanced (settings : Settings) (call : Call) (n m : Tally) : Prop :=
  m.hits + m.misses = n.hits + n.misses + (call.returned.toNat + (call.isRaised settings).toNat)

omit [Store σ] in
/-- What is produced after a look-up in vain, and not lost, balances. -/
theorem balanced_of_produced {n m : Tally} {r : Except Failure Evaluation}
    (passed : accepted settings subject = .ok ())
    (known : (keyOf settings criteria subject).isOk = true)
    (produced : Produced (criteria.evaluate settings subject).result.isOk n.missed r m)
    (kept : (Call.of criteria subject r).isLost settings = false) :
    Balanced settings (.of criteria subject r) n m := by
  cases r with
  | ok e =>
    rw [show m = n.missed.ran from produced]
    rfl
  | error failure =>
    have looks : Call.looksUp settings ⟨criteria, subject, false⟩ = true := by
      rw [Call.looksUp, passed, known]
      rfl
    have raised : Call.isRaised settings ⟨criteria, subject, false⟩ = true := by
      rw [Call.of_error, Call.isLost, looks] at kept
      rw [Call.isRaised, looks, show Call.isComputable settings _ = false from kept]
      rfl
    rw [Call.of_error, Balanced, raised]
    rcases produced with same | ⟨same, -⟩ <;> rw [same] <;> rfl

section Evaluations

variable (telling : Store.Telling settings.lifetime I)

include telling

/-- The rest of an evaluation fails only when the engine does. -/
theorem concluded_reliable (key : String) :
    Serves I (attended criteria (conclude settings criteria subject (.pending key))) s
      fun r _ => (Call.of criteria subject r).Storable settings →
        (Call.of criteria subject r).isLost settings = false := by
  refine serves_attended (Q := fun r _ => (Call.of criteria subject r).Storable settings →
    (Call.of criteria subject r).isLost settings = false) fun inv => ?_
  obtain ⟨held, returns⟩ := serves_settle telling key inv
  exact ⟨held, isLost_of_returns returns⟩

/-- The first part of an evaluation fails only when there is nothing to look up. -/
theorem begun_reliable : Serves I (attended criteria (embark settings criteria subject true)) s
    fun r _ => ∀ call ∈ Call.ofBegun criteria subject r, call.isLost settings = false := by
  refine serves_attended (Q := fun r _ => ∀ call ∈ Call.ofBegun criteria subject r,
    call.isLost settings = false) fun inv => ?_
  obtain ⟨held, begins⟩ := serves_embark telling inv
  refine ⟨held, ?_⟩
  generalize (embark settings criteria subject true (openContext criteria s)).result = r at begins
  match r with
  | .ok (.done e) => simp [Call.ofBegun, Call.isLost]
  | .ok (.pending key) => simp [Call.ofBegun]
  | .error failure => simp [Call.ofBegun, Call.isLost, looksUp_of_begins begins]

/-- Both parts of an evaluation, one right after the other. -/
theorem undisturbed_reliable :
    Serves I (embark settings criteria subject true >>= conclude settings criteria subject) s
      fun r t => (Call.of criteria subject r).Storable settings →
        (Call.of criteria subject r).isLost settings = false ∧
          (Store.Consistent σ → Balanced settings (.of criteria subject r) (tally s) (tally t)) := by
  have counted : Counts (σ := σ) (embark settings criteria subject true) _ := counts_embark
  have begun := counted s
  have began : Serves I (embark settings criteria subject true) s fun r t =>
      Begins settings criteria subject r ∧ Begun _ (tally s) r (tally t) :=
    (serves_embark telling).also begun
  refine began.bind ?_ fun progress came => ?_
  · rintro failure ⟨refused, same⟩ -
    have skipped := looksUp_of_begins refused false
    rw [show tally _ = tally s from same]
    exact ⟨by simp [Call.isLost, skipped], fun _ => by simp [Balanced, Call.isRaised, skipped]⟩
  rw [came] at begun
  cases progress with
  | done e =>
    refine .pure fun _ => ⟨rfl, fun _ => ?_⟩
    rw [show tally _ = (tally s).answered from begun]
    exact Nat.add_right_comm ..
  | pending key =>
    obtain ⟨missed, passed, known⟩ := begun
    intro inv
    obtain ⟨held, returns⟩ := serves_settle telling key inv
    refine ⟨held, fun storable => ?_⟩
    have kept := isLost_of_returns returns storable
    refine ⟨kept, fun consistent => ?_⟩
    have produced : Produced (criteria.evaluate settings subject).result.isOk _ _ _ :=
      produced_of_lacks (lacks_embark consistent came)
    rw [missed] at produced
    exact balanced_of_produced passed (by rw [known]; rfl) produced kept

/-- **An undisturbed evaluation** fails only when there is nothing to look up or when the engine
does, and otherwise one look-up is counted, as answered or as missed. -/
theorem evaluate_reliable {useStore? : Option Bool}
    (used : useStore?.getD settings.storeResults = true) :
    Serves I (evaluate settings (some criteria) subject useStore?) s fun r t =>
      (Call.of criteria subject r).Storable settings →
        (Call.of criteria subject r).isLost settings = false ∧
          (Store.Consistent σ → Balanced settings (.of criteria subject r) (tally s) (tally t)) := by
  rw [evaluate, used]
  exact serves_attended (Q := fun r m => (Call.of criteria subject r).Storable settings →
    (Call.of criteria subject r).isLost settings = false ∧
      (Store.Consistent σ → Balanced settings (.of criteria subject r) (tally s) m))
    (undisturbed_reliable telling)

end Evaluations

end Service

/-! ### Consistent stores -/

/-- **A store in memory is consistent.** -/
theorem Memory.consistent : Store.Consistent Memory := by
  have absent (key : String) (m : Memory) (value : String) :
      (Store.get key (m.remove key)).result ≠ .ok (some value) := by
    change Except.ok ((m.remove key).get key).1 ≠ _
    have gone : (m.remove key).live? key = none := by
      rw [Memory.live?_remove, Function.update_self]
    rw [Memory.get, gone]
    nofun
  constructor
  case get =>
    intro key m none
    change Except.ok (m.get key).1 = _ at none
    change ∀ value, (Store.get key (m.get key).2).result ≠ .ok (some value)
    unfold Memory.get at none ⊢
    cases there : m.live? key with
    | some value =>
      rw [there] at none
      cases none
    | none => exact absent key m
  case delete =>
    intro key m _ _
    exact absent key m

open Client in
/-- **A store behind a client is consistent**, whichever commands the client fails to obey. -/
theorem Shared.consistent : Store.Consistent Shared := by
  have found {s : Shared} {key : String} {found? : Option String}
      (came : (Store.get key s).result = .ok found?) : ∃ c, s.client = some c ∧
        found? = c.values.get? (s.keyOf key) ∧ ∃ d, Still c d ∧
          (Store.get key s).state = { s with client := some d } := by
    obtain ⟨found', got, more, state⟩ := Action.ok_of_bind came
    obtain ⟨c, there, read, left⟩ := Shared.operation_eq_ok got
    obtain ⟨still, same⟩ := value_cases (s.keyOf key) c
    refine ⟨c, there, ?_, _, still, ?_⟩
    · rw [← same found' read]
      cases found' <;> exact (Except.ok.inj more).symm
    · change (Shared.get key s).state = _
      rw [Shared.get, state, left]
      cases found' <;> rfl
  constructor
  case get =>
    intro key s none value again
    obtain ⟨c, there, nothing, d, still, state⟩ := found none
    obtain ⟨d', there', something, -⟩ := found again
    rw [state] at there' something
    obtain rfl : d = d' := Option.some.inj there'
    change some value = d.values.get? (s.keyOf key) at something
    rw [still.values, ← nothing] at something
    cases something
  case delete =>
    intro key s there removed value again
    obtain ⟨count, operated, -, state⟩ := Action.ok_of_bind removed
    obtain ⟨c, -, obeyed, left⟩ := Shared.operation_eq_ok operated
    obtain ⟨d', there', something, -⟩ := found again
    rw [show (Store.delete key s).state = _ from state.trans left] at there' something
    obtain ⟨-, -, ⟨⟨fault, refused⟩, -⟩ | ⟨-, gone⟩⟩ := remove_cases [s.keyOf key] c
    · rw [refused] at obeyed
      cases obeyed
    obtain rfl : _ = d' := Option.some.inj there'
    change some value = (Client.remove [s.keyOf key] c).state.values.get? (s.keyOf key) at something
    rw [gone.values, if_pos (List.mem_singleton_self _)] at something
    cases something

end Eligibility
