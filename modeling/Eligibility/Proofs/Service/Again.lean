/-
# Evaluating the same pair again

An evaluation through a store that lasts ends in one of two ways: its key is found, and the result
under it is told, or the engine computes a result, which is put under the key (`evaluate_ok`).  In
the first case the next evaluation of the same pair finds the key as well.  In the second it does
when the stored text can be read back, that is, when the score is finite and no value is nested too
deeply (`evaluate_again`).

| the first evaluation | the next one |
| --- | --- |
| found its key | finds it |
| computed a result that can be read back | finds it |
| computed a result with an infinite score, or with values nested too deeply | computes it again |

Weights whose sum is not finite lead to the last line: the score is stored as `null`, and no
evaluation of the pair is ever answered by the store (`overflow_never_served`).
-/

import Eligibility.Proofs.Record.Readable
import Eligibility.Proofs.Service.Lasting
import Eligibility.Proofs.Service.Transparency

namespace Eligibility
namespace Service

variable {σ : Type} [Store σ] {I : σ → Prop} {view : σ → String → Option String}
  {steady : σ → σ → Prop} {settings : Settings} {criteria : Criteria} {subject : Value}
  {key text : String} {e : Evaluation} {useStore? : Option Bool} {s t : Service σ} {b : Books}

/-! ### The two ways of an evaluation -/

theorem valid_of_accepted (passed : accepted settings subject = .ok ()) :
    settings.validateInput = true → (Subject.validate settings subject).result = .ok () := by
  intro wanted
  rwa [accepted, if_pos wanted] at passed

section Ways

variable (lasting : Store.Lasting settings.lifetime I view steady)
  (valid : settings.validateInput = true → (Subject.validate settings subject).result = .ok ())
  (used : useStore?.getD settings.storeResults = true)
  (known : keyOf settings criteria subject = .ok key) (inv : I s.store)

include lasting valid used known inv

/-- An evaluation whose key is found tells what is held. -/
theorem comes_evaluate_found (kept : books view s = b) (found : b.held key = some e) :
    Comes I view (evaluate settings (some criteria) subject useStore?) s e
      { b with hits := b.hits + 1 } := by
  refine Comes.attended (fun t inv kept => ?_) inv kept
  rw [used]
  exact (comes_embark_found lasting valid known inv kept found).bind fun u inv kept =>
    .pure inv kept

/-- An evaluation whose key is not found tells what the engine makes of the pair, and leaves what can
be read back from it. -/
theorem comes_evaluate_missed (kept : books view s = b) (missed : b.held key = none)
    (direct : Direct settings criteria subject e) (stored : e.stored = .ok text) :
    Comes I view (evaluate settings (some criteria) subject useStore?) s e
      { b with
        held := Function.update b.held key (Evaluation.ofStored? text)
        locks := b.locks.filter (· != key)
        runs := b.runs + 1 } := by
  refine Comes.attended (fun t inv kept => ?_) inv kept
  rw [used]
  refine (comes_embark_missed lasting valid known inv kept missed).bind fun u inv kept => ?_
  have settled : Comes I view (settle settings criteria subject key) u e
      { b with
        held := Function.update b.held key (Evaluation.ofStored? text)
        locks := if b.locks.contains key then b.locks else key :: b.locks
        runs := b.runs + 1 } := by
    rw [settle_eq]
    exact (comes_lookup_missed lasting inv kept missed false).bind fun v inv kept =>
      comes_produce lasting direct stored inv kept key
  refine settled.ending fun v inv kept => ⟨inv, ?_⟩
  have freed : (unlock key v).locks = b.locks.filter (· != key) := by
    have locks : v.locks = if b.locks.contains key then b.locks else key :: b.locks :=
      congrArg Books.locks kept
    rw [unlock, locks]
    dsimp only
    split
    · rfl
    · rw [List.filter_cons_of_neg (by simp)]
  have rest : books view (unlock key v) = { books view v with locks := (unlock key v).locks } := rfl
  rw [rest, kept, freed]

end Ways

/-- **An evaluation through a store that lasts** has found its key, or the engine has returned and
its result was stored. -/
theorem evaluate_ok (lasting : Store.Lasting settings.lifetime I view steady)
    (used : useStore?.getD settings.storeResults = true) (inv : I s.store)
    (came : (evaluate settings (some criteria) subject useStore? s).result = .ok e) :
    accepted settings subject = .ok () ∧ ∃ key, keyOf settings criteria subject = .ok key ∧
      ((books view s).held key = some e ∨ (books view s).held key = none ∧
        Direct settings criteria subject e ∧ ∃ text, e.stored = .ok text) := by
  have inner := (attended_apply criteria _ s).1.symm.trans came
  rw [used] at inner
  generalize opened : openContext criteria s = t at inner
  have inv : I t.store := opened ▸ inv
  have same : books view s = books view t := opened ▸ rfl
  rw [same]
  obtain ⟨p, begun, rest, -⟩ := Action.ok_of_bind inner
  obtain ⟨_, passed, known, -⟩ := Action.ok_of_bind begun
  rw [(accept_eq settings subject t).1] at passed
  obtain ⟨key, known, -, -⟩ := Action.ok_of_bind known
  have valid := valid_of_accepted passed
  refine ⟨passed, key, known, ?_⟩
  cases held : (books view t).held key with
  | some found =>
    have served := comes_embark_found lasting valid known inv rfl held
    obtain rfl := Except.ok.inj (served.result.symm.trans begun)
    exact .inl (congrArg some (Except.ok.inj rest))
  | none =>
    have missed := comes_embark_missed lasting valid known inv rfl held
    obtain rfl := Except.ok.inj (missed.result.symm.trans begun)
    have settled : (settle settings criteria subject key
        (embark settings criteria subject true t).state).result = .ok e := rest
    have looked := comes_lookup_missed lasting missed.store missed.books held false
    rw [settle_eq, Action.result_bind looked.result] at settled
    obtain ⟨direct, computed, kept, -⟩ := Action.ok_of_bind settled
    obtain ⟨_, stored, ended, -⟩ := Action.ok_of_bind kept
    obtain ⟨text, written, -, -⟩ := Action.ok_of_bind stored
    obtain rfl : direct = e := Except.ok.inj ended
    rw [result_compute] at computed
    exact .inr ⟨rfl, computed, text, written⟩

/-- What is held for a result that was stored. -/
theorem ofStored?_of_direct (direct : Direct settings criteria subject e)
    (stored : e.stored = .ok text) : Evaluation.ofStored? text =
      if e.score.isFinite && e.isShallow then some e.reread else none := by
  rw [Evaluation.ofStored?_stored e stored, Criteria.readsBack_of_evaluate direct]

/-- **The next evaluation of a pair is served from the store** when the first one was, or when its
result has a finite score and values that are not nested too deeply: it tells the same, adds one to
the hits and changes nothing else.  Otherwise the engine is run again, and again nothing is there to
be found. -/
theorem evaluate_again (lasting : Store.Lasting settings.lifetime I view steady)
    {again? : Option Bool} (used : useStore?.getD settings.storeResults = true)
    (used' : again?.getD settings.storeResults = true) (inv : I s.store) (inv' : I t.store)
    (came : (evaluate settings (some criteria) subject useStore? s).result = .ok e)
    (kept : ∀ key, keyOf settings criteria subject = .ok key → view t.store key =
      view (evaluate settings (some criteria) subject useStore? s).state.store key) :
    let first := books view (evaluate settings (some criteria) subject useStore? s).state
    let again := evaluate settings (some criteria) subject again? t
    (first.runs = (books view s).runs ∨ (e.score.isFinite && e.isShallow) = true →
      ∃ e', again.result = .ok e' ∧ e'.passed = e.passed ∧ e'.score = e.score ∧
        e'.decision = e.decision ∧ e'.outline = e.outline ∧
        books view again.state = { books view t with hits := (books view t).hits + 1 }) ∧
    (first.runs ≠ (books view s).runs → (e.score.isFinite && e.isShallow) = false →
      again.result = .ok e ∧ books view again.state = { books view t with
        locks := (books view again.state).locks
        runs := (books view t).runs + 1 }) := by
  intro first again
  obtain ⟨passed, key, known, ways⟩ := evaluate_ok lasting used inv came
  have valid := valid_of_accepted passed
  have same : (books view t).held key = first.held key :=
    congrArg (·.bind Evaluation.ofStored?) (kept key known)
  have served {e' : Evaluation} (found : (books view t).held key = some e')
      (outline : e'.outline = e.outline) : ∃ e', again.result = .ok e' ∧ e'.passed = e.passed ∧
        e'.score = e.score ∧ e'.decision = e.decision ∧ e'.outline = e.outline ∧
        books view again.state = { books view t with hits := (books view t).hits + 1 } := by
    have told := comes_evaluate_found lasting valid used' known inv' rfl found
    obtain ⟨passed, score, decision⟩ := passed_of_outline outline
    exact ⟨e', told.result, passed, score, decision, outline, told.books⟩
  rcases ways with found | ⟨missed, direct, text, stored⟩
  · -- The first evaluation found its key, and changed nothing but the hits.
    have told := comes_evaluate_found lasting valid used known inv rfl found
    have after : first = { books view s with hits := (books view s).hits + 1 } := told.books
    rw [after] at same ⊢
    exact ⟨fun _ => served (same.trans found) rfl, fun other => absurd rfl other⟩
  · have told := comes_evaluate_missed lasting valid used known inv rfl missed direct stored
    have after : first = _ := told.books
    rw [after] at same ⊢
    have held := same.trans (Function.update_self ..)
    rw [ofStored?_of_direct direct stored] at held
    refine ⟨fun readable => ?_, fun _ unreadable => ?_⟩
    · rcases readable with same | readable
      · exact absurd same (Nat.succ_ne_self _)
      · rw [if_pos readable] at held
        exact served held (Evaluation.outline_reread e)
    · rw [if_neg (by simp [unreadable])] at held
      have computed := comes_evaluate_missed lasting valid used' known inv' rfl held direct stored
      have untouched : Function.update (books view t).held key (Evaluation.ofStored? text) =
          (books view t).held := by
        rw [ofStored?_of_direct direct stored, if_neg (by simp [unreadable])]
        exact Function.update_eq_self_iff.2 held.symm
      refine ⟨computed.result, ?_⟩
      rw [computed.books, untouched]

/-- A service over an empty store in memory. -/
def fresh : Service Memory := { store := {} }

/-- The requirements can be met: a minute after the first evaluation its result is still there. -/
theorem evaluate_again_adults :
    let first := evaluate {} (some adults) twenty none fresh
    let later : Service Memory :=
      { first.state with store := first.state.store.advance (.ofNat 60) }
    let again := evaluate {} (some adults) twenty none later
    ∃ e e', first.result = .ok e ∧ again.result = .ok e' ∧ e'.passed = true ∧ e'.score = e.score ∧
      again.state.metrics.durationCount = later.metrics.durationCount ∧
      again.state.hits = later.hits + 1 := by
  intro first later again
  have shape : first.result.toOption.map (fun e => (e.passed, e.score.isFinite && e.isShallow)) =
      some (true, true) := by decide +kernel
  obtain ⟨e, came, same⟩ := exists_ok_of_toOption shape
  obtain ⟨passes, readable⟩ := Prod.mk.inj same
  have kept : ∀ key, keyOf {} adults twenty = .ok key →
      later.store.live? key = first.state.store.live? key := by
    intro key known
    have standing : (keyOf {} adults twenty).toOption.all (fun key =>
        (first.state.store.entries.get? key).all fun entry =>
          !entry.isOver first.state.store.now &&
            !entry.isOver (first.state.store.advance (.ofNat 60)).now) = true := by
      decide +kernel
    rw [known] at standing
    exact Memory.live?_advance standing
  have used : (none : Option Bool).getD ({} : Settings).storeResults = true := rfl
  obtain ⟨e', told, passed, score, -, -, counts⟩ :=
    (evaluate_again (Memory.lasting _) used used
      (Memory.keeping_of_isKeeping (by decide +kernel) : Memory.Keeping _ fresh.store)
      (Memory.keeping_of_isKeeping (by decide +kernel) : Memory.Keeping _ later.store)
      came kept).1 (.inr readable)
  obtain ⟨hits, runs⟩ := counts_of_books counts
  exact ⟨e, e', came, told, passed.trans passes, score, runs, hits⟩

/-- A result that cannot be read back is computed each time. -/
theorem computed_twice (lasting : Store.Lasting settings.lifetime I view steady)
    (valid : settings.validateInput = true →
      (Subject.validate settings subject).result = .ok ())
    (used : useStore?.getD settings.storeResults = true)
    (known : keyOf settings criteria subject = .ok key) (inv : I s.store)
    (missed : (books view s).held key = none) (direct : Direct settings criteria subject e)
    (stored : e.stored = .ok text) (unreadable : (e.score.isFinite && e.isShallow) = false) :
    let first := evaluate settings (some criteria) subject useStore? s
    let again := evaluate settings (some criteria) subject useStore? first.state
    first.result = .ok e ∧ again.result = .ok e ∧ again.state.hits = s.hits ∧
      again.state.metrics.durationCount = s.metrics.durationCount + 2 := by
  have read : Evaluation.ofStored? text = none := by
    rw [ofStored?_of_direct direct stored, unreadable]
    rfl
  have one := comes_evaluate_missed lasting valid used known inv rfl missed direct stored
  have two := comes_evaluate_missed lasting valid used known one.store one.books
    ((Function.update_self ..).trans read) direct stored
  obtain ⟨hits, runs⟩ := counts_of_books two.books
  exact ⟨one.result, two.result, hits, runs⟩

/-- A rule for adults that weighs nearly as much as a double can hold. -/
def heavyRule (name : String) : Rule where
  ruleId := .text name
  field := "age"
  operator := .text ">="
  expected := .int 18
  weight := .double (.ofDecimal false 1 308)

/-- Two such rules, whose weights come to more than a double can hold. -/
def overflowing : Criteria where
  criteriaId := .text "overflowing"
  rules := [heavyRule "first", heavyRule "second"]
  method := .text "sum"

/-- **An infinite score is never served.**  The engine is run for each evaluation, and none is
answered by the store. -/
theorem overflow_never_served :
    (∃ e, (evaluate {} (some overflowing) twenty none fresh).result = .ok e ∧
      (evaluate {} (some overflowing) twenty none
        (evaluate {} (some overflowing) twenty none fresh).state).result = .ok e ∧
      e.passed = true) ∧
    (evaluate {} (some overflowing) twenty none
      (evaluate {} (some overflowing) twenty none fresh).state).state.hits = 0 ∧
    (evaluate {} (some overflowing) twenty none
      (evaluate {} (some overflowing) twenty none fresh).state).state.metrics.durationCount = 2 := by
  have shape : (overflowing.evaluate {} twenty).result.toOption.map (fun e =>
      (e.passed, e.score.isFinite && e.isShallow, e.stored.toOption.isSome)) =
        some (true, false, true) := by decide +kernel
  obtain ⟨e, direct, same⟩ := exists_ok_of_toOption shape
  obtain ⟨passed, rest⟩ := Prod.mk.inj same
  obtain ⟨unreadable, written⟩ := Prod.mk.inj rest
  obtain ⟨text, stored⟩ := Option.isSome_iff_exists.1 written
  have named : (keyOf {} overflowing twenty).toOption.isSome = true := by decide +kernel
  obtain ⟨key, found⟩ := Option.isSome_iff_exists.1 named
  have accepted : (Subject.validate {} twenty).result = .ok () := ok_of_toOption (by decide +kernel)
  have keeping : Memory.Keeping ({} : Settings).lifetime fresh.store :=
    Memory.keeping_of_isKeeping (by decide +kernel)
  have used : (none : Option Bool).getD ({} : Settings).storeResults = true := rfl
  obtain ⟨came, came', hits, runs⟩ := computed_twice (Memory.lasting _) (fun _ => accepted) used
    (ok_of_toOption found) keeping rfl direct (ok_of_toOption stored) unreadable
  exact ⟨⟨e, came, came', passed⟩, hits, runs⟩

end Service
end Eligibility
