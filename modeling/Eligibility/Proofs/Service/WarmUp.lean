/-
# Warming a store up

A subject that cannot be evaluated does not get in the way of the others: it fails for reasons of
its own (`Unfit`), and a subject without such a reason is evaluated and kept, whatever stands beside
it.  What the warm-up comes to depends on the kind of the failures:

| failure | warm-up |
| --- | --- |
| the subject is not accepted | passes over it, and counts the others |
| no key, the engine, no stored form | carries the others out, and then fails itself |

The failures of the second row are of no family, and nothing but a family is passed over
(`warmUp_isolates`, `warmUp_aborted`).
-/

import Eligibility.Proofs.Service.Batch
import Eligibility.Proofs.Service.Failing
import Eligibility.Service.Gather
import Eligibility.Service.Upkeep

namespace Eligibility

/-- Items one after another, when one action does what the other does and tells it in other
words. -/
theorem Action.each_map {ε σ α β γ : Type} {f : α → Action ε σ β} {g : α → Action ε σ γ} {h : β → γ}
    (same : ∀ a s, (g a s).result = (f a s).result.map h ∧ (g a s).state = (f a s).state)
    (items : List α) (s : σ) :
    (each g items s).result = (each f items s).result.map (List.map h) ∧
      (each g items s).state = (each f items s).state := by
  induction items generalizing s with
  | nil => exact ⟨rfl, rfl⟩
  | cons a rest ih =>
    obtain ⟨result, state⟩ := same a s
    obtain ⟨results, states⟩ := ih (f a s).state
    rw [each, each, bind_apply, bind_apply, result, state]
    cases (f a s).result with
    | error fault => exact ⟨rfl, rfl⟩
    | ok b =>
      simp only [Except.map, bind_apply, results, states]
      cases (each f rest (f a s).state).result with
      | error fault => exact ⟨rfl, rfl⟩
      | ok bs => exact ⟨rfl, rfl⟩

namespace Service

variable {σ α β : Type}

/-- The reasons for which a subject cannot be evaluated through a store that does not fail. -/
inductive Unfit (settings : Settings) (criteria : Criteria) (subject : Value) : Failure → Prop where
  | refused {failure : Failure} (came : accepted settings subject = .error failure) :
    Unfit settings criteria subject failure
  | withoutKey {failure : Failure} (came : keyOf settings criteria subject = .error failure) :
    Unfit settings criteria subject failure
  | engine {failure : Failure}
    (came : (criteria.evaluate settings subject).result = .error failure) :
    Unfit settings criteria subject failure
  | unwritten {failure : Failure} {e : Evaluation} (direct : Direct settings criteria subject e)
    (came : e.stored = .error failure) : Unfit settings criteria subject failure

/-- Only a subject that is not accepted fails in a way that has a family. -/
theorem Unfit.refused_or_strange {settings : Settings} {criteria : Criteria} {subject : Value}
    {failure : Failure} (unfit : Unfit settings criteria subject failure) :
    accepted settings subject = .error failure ∨ failure.Strange := by
  cases unfit with
  | refused came => exact .inl came
  | withoutKey came => exact .inr (strange_of_keyOf came)
  | engine came => exact .inr (criteria.failsIn_evaluate settings subject _ came)
  | unwritten _ came => exact .inr (Evaluation.strange_of_stored came)

/-- How an evaluation through the store stands at its end. -/
structure Worked (I : σ → Prop) (view : σ → String → Option String) (settings : Settings)
    (criteria : Criteria) (subject : Value) (s : Service σ) (r : Except Failure Evaluation)
    (t : Service σ) : Prop where
  store : I t.store
  others : ∀ key, keyOf settings criteria subject ≠ .ok key → view t.store key = view s.store key
  kept : ∀ e, r = .ok e → ∃ key, keyOf settings criteria subject = .ok key ∧
    (view t.store key).isSome
  unfit : ∀ failure, r = .error failure → Unfit settings criteria subject failure
  /-- A failure of a family comes before the store is asked. -/
  spared : ∀ failure, r = .error failure → ¬failure.Strange → view t.store = view s.store

/-- Only the text under a key may have changed. -/
structure Confined (I : σ → Prop) (view : σ → String → Option String) (key : String)
    (s t : Service σ) : Prop where
  store : I t.store
  others : ∀ k ≠ key, view t.store k = view s.store k

variable {I : σ → Prop} {view : σ → String → Option String} {steady : σ → σ → Prop}
  {settings : Settings} {criteria : Criteria} {subject : Value} {key : String} {s t u : Service σ}

theorem Confined.trans (first : Confined I view key s t) (later : Confined I view key t u) :
    Confined I view key s u where
  store := later.store
  others k other := (later.others k other).trans (first.others k other)

/-- An action returns, and ends in `P`. -/
def Gives (x : Step (Service σ) α) (s : Service σ) (P : α → Service σ → Prop) : Prop :=
  Ends x s fun r t => ∃ a, r = .ok a ∧ P a t

theorem Gives.bind {x : Step (Service σ) α} {f : α → Step (Service σ) β}
    {P : α → Service σ → Prop} {Q : Except Failure β → Service σ → Prop} (first : Gives x s P)
    (rest : ∀ a t, P a t → Ends (f a) t Q) : Ends (x >>= f) s Q := by
  refine Ends.bind first ?_ ?_
  · rintro failure t ⟨_, no, -⟩
    cases no
  · rintro a t ⟨_, same, here⟩
    obtain rfl := Except.ok.inj same
    exact rest a t here

/-- Only the text under a key may have changed, and it is there when a result is found. -/
def Found (I : σ → Prop) (view : σ → String → Option String) (key : String) (s : Service σ)
    (found : Option Evaluation) (t : Service σ) : Prop :=
  Confined I view key s t ∧ (found.isSome → (view t.store key).isSome)

theorem Found.nothing (confined : Confined I view key s t) : Found I view key s none t :=
  ⟨confined, fun no => by cases no⟩

/-- Only the text under a key may have changed: it is there when an action has returned, and what it
fails with otherwise is in `P`. -/
def Left (I : σ → Prop) (view : σ → String → Option String) (key : String) (s : Service σ)
    (P : Failure → Prop) (r : Except Failure α) (t : Service σ) : Prop :=
  Confined I view key s t ∧
    match r with
    | .ok _ => (view t.store key).isSome
    | .error failure => P failure

theorem Left.kept {P : Failure → Prop} {r : Except Failure α} {a : α}
    (left : Left I view key s P r t) (came : r = .ok a) : (view t.store key).isSome := by
  subst came
  exact left.2

theorem Left.failed {P : Failure → Prop} {r : Except Failure α} {failure : Failure}
    (left : Left I view key s P r t) (came : r = .error failure) : P failure := by
  subst came
  exact left.2

section Parts

variable [Store σ] (lasting : Store.Lasting settings.lifetime I view steady)

include lasting

theorem gives_get (key : String) (inv : I s.store) : Gives (inStore (Store.get key)) s
    fun found t => I t.store ∧ view t.store = view s.store ∧ found = view s.store key := by
  obtain ⟨came, inv, same⟩ := lasting.get s.store key inv
  exact ⟨_, came, inv, same, rfl⟩

theorem gives_delete (key : String) (inv : I s.store) : Gives (inStore (Store.delete key)) s
    fun _ t => Confined I view key s t := by
  obtain ⟨⟨there, came⟩, inv, same⟩ := lasting.delete s.store key inv
  exact ⟨there, came, inv, fun k other => (congrFun same k).trans (Function.update_of_ne other ..)⟩

theorem gives_put (key value : String) (tags : List String) (inv : I s.store) :
    Gives (inStore (Store.put key value settings.lifetime tags)) s fun _ t =>
      Confined I view key s t ∧ (view t.store key).isSome := by
  obtain ⟨came, inv, same⟩ := lasting.put s.store key value tags inv
  refine ⟨(), came, ⟨inv, fun k other => ?_⟩, ?_⟩
  · exact (congrFun same k).trans (Function.update_of_ne other ..)
  · exact (congrArg Option.isSome (congrFun same key)).trans (by rw [Function.update_self]; rfl)

/-- A look-up that finds a result leaves its text where it is. -/
theorem found_fetch (key : String) (inv : I s.store) :
    Gives (fetch key) s (Found I view key s) := by
  refine (gives_get lasting key inv).bind ?_
  rintro _ t ⟨inv, same, rfl⟩
  have confined : Confined I view key s t := ⟨inv, fun k _ => congrFun same k⟩
  cases there : view s.store key with
  | none => exact ⟨none, rfl, .nothing confined⟩
  | some stored =>
    dsimp only
    cases read : Evaluation.ofStored? stored with
    | some e =>
      refine ⟨some e, rfl, confined, fun _ => ?_⟩
      exact congrArg Option.isSome ((congrFun same key).trans there)
    | none =>
      refine Ends.noting ((gives_delete lasting key inv).bind fun _ u gone => ?_)
      exact ⟨none, rfl, .nothing (confined.trans gone)⟩

theorem found_lookup (key : String) (countMisses : Bool) (inv : I s.store) :
    Gives (lookup key countMisses) s (Found I view key s) := by
  refine (found_fetch lasting key inv).bind ?_
  rintro found t ⟨⟨inv, others⟩, there⟩
  cases found with
  | some e => exact ⟨some e, rfl, ⟨inv, others⟩, fun _ => there rfl⟩
  | none => cases countMisses <;> exact ⟨none, rfl, .nothing ⟨inv, others⟩⟩

theorem left_keep (criteria : Criteria) (e : Evaluation) (inv : I s.store) :
    Ends (keep settings criteria key e) s (Left I view key s (e.stored = .error ·)) := by
  refine (ends_ofExcept e.stored s).bind ?_ ?_
  · rintro failure t ⟨rfl, came⟩
    exact ⟨⟨inv, fun _ _ => rfl⟩, came.symm⟩
  · rintro text t ⟨rfl, -⟩
    obtain ⟨_, came, confined, there⟩ := gives_put lasting key text (tagsOf criteria) inv
    exact ⟨confined, came ▸ there⟩

/-- What is settled is in the store, or there is a reason of its own that it cannot be. -/
theorem left_settle (criteria : Criteria) (subject : Value) (key : String) (inv : I s.store) :
    Ends (settle settings criteria subject key) s (Left I view key s fun failure =>
      failure.Strange ∧ Unfit settings criteria subject failure) := by
  refine (found_lookup lasting key false inv).bind ?_
  rintro found t ⟨looked, there⟩
  cases found with
  | some e => exact ⟨⟨looked.store, looked.others⟩, there rfl⟩
  | none =>
    have computed : Ends (compute settings criteria subject) t fun r u => u.store = t.store ∧
        r = (criteria.evaluate settings subject).result :=
      ⟨(ends_compute settings criteria subject t).2.1, result_compute settings criteria subject t⟩
    have still {u : Service σ} (store : u.store = t.store) : Confined I view key s u :=
      ⟨store ▸ looked.store, fun k other => store ▸ looked.others k other⟩
    refine computed.bind ?_ ?_
    · rintro failure u ⟨store, came⟩
      exact ⟨still store, criteria.failsIn_evaluate settings subject _ came.symm,
        .engine came.symm⟩
    · rintro e u ⟨store, direct⟩
      refine (left_keep lasting criteria e (still store).store).bind ?_ ?_
      · rintro failure v ⟨last, came⟩
        exact ⟨(still store).trans last, Evaluation.strange_of_stored came,
          .unwritten direct.symm came⟩
      · rintro _ v ⟨last, there⟩
        exact ⟨(still store).trans last, there⟩

/-- How an evaluation through the store stands after its first part. -/
def Started (I : σ → Prop) (view : σ → String → Option String) (settings : Settings)
    (criteria : Criteria) (subject : Value) (s : Service σ) (r : Except Failure Progress)
    (t : Service σ) : Prop :=
  match r with
  | .ok (.done _) => ∃ key, keyOf settings criteria subject = .ok key ∧ Confined I view key s t ∧
    (view t.store key).isSome
  | .ok (.pending key) => keyOf settings criteria subject = .ok key ∧ Confined I view key s t
  | .error failure => t = s ∧ Unfit settings criteria subject failure

theorem started_embark (criteria : Criteria) (subject : Value) (inv : I s.store) :
    Ends (embark settings criteria subject true) s
      (Started I view settings criteria subject s) := by
  refine Ends.embarking (P := fun key r t => keyOf settings criteria subject = .ok key ∧
    ∃ found, r = .ok found ∧ Found I view key s found t) ?_ ?_ ?_ ?_ ?_ ?_
  · exact fun failure came => ⟨rfl, .refused came⟩
  · exact fun failure came => ⟨rfl, .withoutKey came⟩
  · exact fun key known => ⟨known, found_lookup lasting key true inv⟩
  · rintro key failure t ⟨-, _, no, -⟩
    cases no
  · rintro key e t ⟨known, found, same, confined, there⟩
    obtain rfl := Except.ok.inj same
    exact ⟨key, known, confined, there rfl⟩
  · rintro key t ⟨known, _, -, confined, -⟩
    exact ⟨known, confined.store, confined.others⟩

theorem worked_evaluation (criteria : Criteria) (subject : Value) (inv : I s.store) :
    Ends (embark settings criteria subject true >>= conclude settings criteria subject) s
      (Worked I view settings criteria subject s) := by
  refine (started_embark lasting criteria subject inv).bind ?_ ?_
  · rintro failure t ⟨rfl, unfit⟩
    refine ⟨inv, fun _ _ => rfl, fun _ no => ?_, fun other same => ?_, fun _ _ _ => rfl⟩
    · cases no
    · exact Except.error.inj same ▸ unfit
  intro progress t started
  cases progress with
  | done e =>
    obtain ⟨key, known, confined, there⟩ := started
    refine ⟨confined.store, fun k other => confined.others k ?_, fun _ _ => ⟨key, known, there⟩,
      fun failure no => ?_, fun failure no => ?_⟩
    · rintro rfl
      exact other known
    · cases no
    · cases no
  | pending key =>
    obtain ⟨known, confined⟩ := started
    have left := left_settle lasting criteria subject key confined.store
    have whole := confined.trans left.1
    refine ⟨whole.store, fun k other => whole.others k ?_,
      fun e came => ⟨key, known, left.kept came⟩, fun failure came => (left.failed came).2,
      fun failure came family => absurd (left.failed came).1 family⟩
    rintro rfl
    exact other known

/-- **What one evaluation through a store that lasts leaves behind.** -/
theorem worked_evaluate (criteria : Criteria) (subject : Value) (inv : I s.store) :
    Ends (evaluate settings (some criteria) subject (some true)) s
      (Worked I view settings criteria subject s) := by
  have opened : I (openContext criteria s).store := inv
  obtain ⟨store, others, kept, unfit, spared⟩ :=
    worked_evaluation lasting criteria subject opened
  obtain ⟨-, left⟩ := attended_left criteria (embark settings criteria subject true >>=
    conclude settings criteria subject) s
  have result := (attended_apply criteria (embark settings criteria subject true >>=
    conclude settings criteria subject) s).1
  change Worked I view settings criteria subject s (attended criteria _ s).result
    (attended criteria _ s).state
  constructor
  · exact left ▸ store
  · exact fun key other => left ▸ others key other
  · exact fun e came => left ▸ kept e (result ▸ came)
  · exact fun failure came => unfit failure (result ▸ came)
  · exact fun failure came family => left ▸ spared failure (result ▸ came) family

end Parts

/-! ### One after another -/

/-- What is under a key stays there, unless the subject has that key and fails for want of a
family. -/
theorem Worked.stays {r : Except Failure Evaluation}
    (worked : Worked I view settings criteria subject s r t) (there : (view s.store key).isSome)
    (apart : ∀ failure, r = .error failure → failure.Strange →
      keyOf settings criteria subject ≠ .ok key) : (view t.store key).isSome := by
  by_cases own : keyOf settings criteria subject = .ok key
  · cases came : r with
    | ok e =>
      obtain ⟨key', known, kept⟩ := worked.kept e came
      obtain rfl := Except.ok.inj (own.symm.trans known)
      exact kept
    | error failure =>
      rw [worked.spared failure came fun strange => apart failure came strange own]
      exact there
  · rw [worked.others key own]
    exact there

/-- A subject that has a key has failed for want of a family. -/
def Spoiled (settings : Settings) (criteria : Criteria)
    (told : List (Value × Except Failure Evaluation)) (key : String) : Prop :=
  ∃ subject failure, (subject, .error failure) ∈ told ∧ failure.Strange ∧
    keyOf settings criteria subject = .ok key

/-- How the evaluations of subjects stand at their end, with what each has come to. -/
structure Gathered (view : σ → String → Option String) (settings : Settings) (criteria : Criteria)
    (told : List (Value × Except Failure Evaluation)) (s t : Service σ) : Prop where
  unfit : ∀ subject failure, (subject, .error failure) ∈ told →
    Unfit settings criteria subject failure
  stays : ∀ key, (view s.store key).isSome → ¬Spoiled settings criteria told key →
    (view t.store key).isSome
  kept : ∀ before subject e after, told = before ++ (subject, .ok e) :: after →
    ∃ key, keyOf settings criteria subject = .ok key ∧
      (¬Spoiled settings criteria after key → (view t.store key).isSome)

theorem Gathered.nil (s : Service σ) : Gathered view settings criteria [] s s where
  unfit _ _ no := by cases no
  stays _ there _ := there
  kept before _ _ _ no := by cases before <;> cases no

/-- One evaluation more, before the others. -/
theorem Gathered.cons {told : List (Value × Except Failure Evaluation)}
    {r : Except Failure Evaluation} (worked : Worked I view settings criteria subject s r t)
    (later : Gathered view settings criteria told t u) :
    Gathered view settings criteria ((subject, r) :: told) s u where
  unfit other failure member := by
    cases member with
    | head => exact worked.unfit failure rfl
    | tail _ member => exact later.unfit other failure member
  stays key there sound := by
    refine later.stays key (worked.stays there fun failure came strange own => ?_) ?_
    · exact sound ⟨subject, failure, by simp [came], strange, own⟩
    · rintro ⟨other, failure, member, spoils⟩
      exact sound ⟨other, failure, .tail _ member, spoils⟩
  kept before other e after same := by
    cases before with
    | nil =>
      obtain ⟨⟨⟩, rfl⟩ := List.cons.inj same
      obtain ⟨key, known, there⟩ := worked.kept e rfl
      exact ⟨key, known, later.stays key there⟩
    | cons first before => exact later.kept before other e after (List.cons.inj same).2

/-- **Evaluations one after another** come each to something, and what is kept stays. -/
theorem gathered_inTurn [Store σ] (lasting : Store.Lasting settings.lifetime I view steady)
    (criteria : Criteria) (subjects : List Value) (inv : I s.store) :
    ∃ outcomes,
      (gatherInTurn settings (some criteria) (some true) subjects s).result = .ok outcomes ∧
      outcomes.length = subjects.length ∧
      Gathered view settings criteria (subjects.zip outcomes) s
        (gatherInTurn settings (some criteria) (some true) subjects s).state := by
  induction subjects generalizing s with
  | nil => exact ⟨[], rfl, rfl, .nil s⟩
  | cons subject rest ih =>
    have worked := worked_evaluate lasting criteria subject inv
    obtain ⟨outcomes, came, many, later⟩ := ih worked.store
    obtain ⟨result, state⟩ := Action.each_of_ok (a := subject)
      (f := fun subject => (evaluate settings (some criteria) subject (some true)).attempt) rfl came
    refine ⟨_, result, congrArg (· + 1) many, ?_⟩
    change Gathered _ _ _ _ s (Action.each _ (subject :: rest) s).state
    rw [state]
    exact later.cons worked

/-! ### What a warm-up makes of it -/

/-- What a warm-up makes of an evaluation. -/
def verdict : Except Failure Evaluation → Except Failure Bool
  | .ok _ => .ok true
  | .error failure => if failure.family?.isSome then .ok false else .error failure

theorem verdict_of_usual {outcome : Except Failure Evaluation}
    (usual : ∀ failure, outcome = .error failure → ¬failure.Strange) :
    verdict outcome = .ok outcome.isOk := by
  cases outcome with
  | ok e => rfl
  | error failure => exact if_pos (Option.isSome_iff_ne_none.2 (usual failure rfl))

theorem verdict_of_strange {failure : Failure} (strange : failure.Strange) :
    verdict (.error failure) = .error failure := by
  rw [verdict, strange]
  rfl

theorem collected_of_usual {outcomes : List (Except Failure Evaluation)}
    (usual : ∀ failure, .error failure ∈ outcomes → ¬failure.Strange) :
    (outcomes.map verdict).mapM id = .ok (outcomes.map (·.isOk)) := by
  refine mapM_id_eq_ok.2 ?_
  rw [List.map_map]
  refine List.map_congr_left fun outcome member => verdict_of_usual fun failure same => ?_
  exact usual failure (same ▸ member)

theorem collected_of_strange {before after : List (Except Failure Evaluation)} {failure : Failure}
    (usual : ∀ other, .error other ∈ before → ¬other.Strange) (strange : failure.Strange) :
    ((before ++ .error failure :: after).map verdict).mapM id = .error failure := by
  rw [List.map_append, List.mapM_append, collected_of_usual usual, List.map_cons,
    verdict_of_strange strange]
  rfl

variable [Store σ]

theorem warm_apply (settings : Settings) (criteria : Criteria) (subject : Value) (s : Service σ) :
    let came := evaluate settings (some criteria) subject (some true) s
    (warm settings criteria subject s).result = .ok (verdict came.result) ∧
      (warm settings criteria subject s).state = came.state := by
  unfold warm
  rw [Action.bind_apply]
  dsimp only [Action.attempt]
  generalize evaluate settings (some criteria) subject (some true) s = came
  cases came.result with
  | ok e => exact ⟨rfl, rfl⟩
  | error failure =>
    dsimp only [verdict]
    split
    · exact ⟨rfl, rfl⟩
    · exact ⟨rfl, rfl⟩

/-- A warm-up does what the evaluations do one after another, and fails with the first failure of no
family among them. -/
theorem warmUp_apply {subjects : List Value} {outcomes : List (Except Failure Evaluation)}
    (came : (gatherInTurn settings (some criteria) (some true) subjects s).result = .ok outcomes) :
    (warmUp settings (some criteria) subjects s).result =
        ((outcomes.map verdict).mapM id).map (·.count true) ∧
      (warmUp settings (some criteria) subjects s).state =
        (gatherInTurn settings (some criteria) (some true) subjects s).state := by
  obtain ⟨result, state⟩ := Action.each_map (g := warm settings criteria) (h := verdict)
    (f := fun subject => (evaluate settings (some criteria) subject (some true)).attempt)
    (fun subject s => warm_apply settings criteria subject s) subjects s
  have told : (Action.each (warm settings criteria) subjects s).result =
      .ok (outcomes.map verdict) := by
    rw [result]
    exact congrArg (Except.map (List.map verdict)) came
  unfold warmUp
  dsimp only
  rw [Action.bind_apply, told]
  dsimp only
  rw [state, Action.bind_apply]
  dsimp only [Action.ofExcept]
  cases (outcomes.map verdict).mapM id with
  | error failure => exact ⟨rfl, rfl⟩
  | ok warmed => exact ⟨rfl, rfl⟩

theorem count_isOk (outcomes : List (Except Failure Evaluation)) :
    (outcomes.map (·.isOk)).count true = outcomes.countP (·.isOk) := by
  rw [List.count, List.countP_map]
  exact List.countP_congr fun outcome _ => by simp

/-- The result of a criteria for a subject is in the store, and stays there until its time is
over. -/
def IsWarm (settings : Settings) (criteria : Criteria) (subject : Value) (s : Service Memory) :
    Prop :=
  ∃ key entry, keyOf settings criteria subject = .ok key ∧
    s.store.entries.get? key = some entry ∧ entry.isOver s.store.now = false ∧
    ∀ seconds, entry.isOver (s.store.advance seconds).now = false →
      (isStored settings (some criteria) subject
        { s with store := s.store.advance seconds }).result = .ok true

theorem isWarm_of_live {s : Service Memory} (known : keyOf settings criteria subject = .ok key)
    (there : (s.store.live? key).isSome) : IsWarm settings criteria subject s := by
  unfold Memory.live? at there
  cases found : s.store.entries.get? key with
  | none => simp [found] at there
  | some entry =>
    simp only [found] at there
    have standing : entry.isOver s.store.now = false := by
      by_contra ended
      simp [ended] at there
    refine ⟨key, entry, known, found, standing, fun seconds later => ?_⟩
    have entries : (s.store.advance seconds).entries = s.store.entries := rfl
    have live : (s.store.advance seconds).live? key = some entry.value := by
      rw [Memory.live?, entries, found]
      exact if_neg (by simp [later])
    have named : keyOfGiven settings (some criteria) subject = .ok key := known
    unfold isStored
    rw [named]
    change Except.ok ((s.store.advance seconds).get key).1.isSome = _
    rw [Memory.found_get, live]
    rfl

/-- **Warming up a store in memory.**  Each subject is evaluated through the store, one after
another, whatever the others come to: one that cannot be evaluated has a reason of its own.  What is
evaluated is in the store afterwards, and stays there until its time is over.  As long as no failure
is of no family, the warm-up tells how many subjects were evaluated; otherwise it fails itself, with
the first such failure, after the last subject. -/
theorem warmUp_isolates (settings : Settings) (criteria : Criteria) (subjects : List Value)
    (s : Service Memory) (working : s.store.Keeping settings.lifetime) :
    let warmed := warmUp settings (some criteria) subjects s
    ∃ outcomes,
      (gatherInTurn settings (some criteria) (some true) subjects s).result = .ok outcomes ∧
      outcomes.length = subjects.length ∧
      (∀ subject failure, (subject, .error failure) ∈ subjects.zip outcomes →
        Unfit settings criteria subject failure ∧
          (accepted settings subject = .error failure ∨ failure.Strange)) ∧
      (∀ before subject e after, subjects.zip outcomes = before ++ (subject, .ok e) :: after →
        (∀ other failure, (other, .error failure) ∈ after → failure.Strange →
          keyOf settings criteria other ≠ keyOf settings criteria subject) →
        IsWarm settings criteria subject warmed.state) ∧
      ((∀ failure, .error failure ∈ outcomes → ¬failure.Strange) →
        warmed.result = .ok (outcomes.countP (·.isOk))) ∧
      ∀ before failure after, outcomes = before ++ .error failure :: after → failure.Strange →
        (∀ other, .error other ∈ before → ¬other.Strange) → warmed.result = .error failure := by
  intro warmed
  obtain ⟨outcomes, came, many, gathered⟩ :=
    gathered_inTurn (Memory.lasting settings.lifetime) criteria subjects working
  obtain ⟨result, state⟩ := warmUp_apply came
  refine ⟨outcomes, came, many, fun subject failure member => ?_, ?_, ?_, ?_⟩
  · have unfit := gathered.unfit subject failure member
    exact ⟨unfit, unfit.refused_or_strange⟩
  · intro before subject e after same apart
    obtain ⟨key, known, there⟩ := gathered.kept before subject e after same
    refine isWarm_of_live known (state ▸ there ?_)
    rintro ⟨other, failure, member, strange, own⟩
    exact apart other failure member strange (own.trans known.symm)
  · intro usual
    rw [result, collected_of_usual usual]
    exact congrArg Except.ok (count_isOk outcomes)
  · rintro before failure after rfl strange usual
    rw [result, collected_of_strange usual strange]
    rfl

/-- The requirements can be met: a subject that is no map is passed over. -/
theorem warmUp_isolates_refused :
    let warmed := warmUp {} (some adults) [.text "twenty", twenty] idle
    warmed.result = .ok 1 ∧ IsWarm {} adults twenty warmed.state := by
  intro warmed
  obtain ⟨outcomes, came, -, -, warm, counted, -⟩ :=
    warmUp_isolates {} adults [.text "twenty", twenty] idle
      (Memory.keeping_of_isKeeping (by decide +kernel))
  have shape : (gatherInTurn {} (some adults) (some true) [.text "twenty", twenty]
      idle).result.toOption.map (·.map fun outcome => (outcome.isOk, Failure.familyOf? outcome)) =
        some [(false, some .validation), (true, none)] := by
    decide +kernel
  obtain ⟨outcomes', came', shape⟩ := exists_ok_of_toOption shape
  obtain rfl := Except.ok.inj (came.symm.trans came')
  obtain ⟨first, rest, rfl, refused, shape⟩ := List.map_eq_cons_iff.1 shape
  obtain ⟨second, rest, rfl, returned, shape⟩ := List.map_eq_cons_iff.1 shape
  obtain rfl := List.map_eq_nil_iff.1 shape
  cases first with
  | ok e => cases refused
  | error failure =>
    cases second with
    | error other => cases returned
    | ok e =>
      have known : failure.family? = some .validation := (Prod.mk.inj refused).2
      refine ⟨counted ?_, warm [(.text "twenty", .error failure)] twenty e [] rfl ?_⟩
      · simp [Failure.Strange, known]
      · simp

/-- A subject that nests keys which have no order, so that it has no canonical text. -/
def tangled : Value := .map [(.text "kin", .map [(.text "son", .int 1), (.int 2, .int 3)])]

/-- **A subject can fail a whole warm-up**, though that of the others succeeds and the subject
itself is evaluated past the store without any failure. -/
theorem warmUp_aborted :
    idle.store.Keeping ({} : Settings).lifetime ∧
      (∃ failure, (warmUp {} (some adults) [tangled, twenty] idle).result = .error failure) ∧
      (warmUp {} (some adults) [twenty] idle).result = .ok 1 ∧
      ∃ e, (evaluate {} (some adults) tangled (some false) idle).result = .ok e := by
  refine ⟨Memory.keeping_of_isKeeping (by decide +kernel), ?_, ?_, ?_⟩
  · have fails : (warmUp {} (some adults) [tangled, twenty] idle).result.toOption = none := by
      decide +kernel
    cases came : (warmUp {} (some adults) [tangled, twenty] idle).result with
    | error failure => exact ⟨failure, rfl⟩
    | ok count =>
      rw [came] at fails
      cases fails
  · exact ok_of_toOption (by decide +kernel)
  · have returns : (alone {} adults tangled).toOption.isSome = true := by decide +kernel
    obtain ⟨e, came⟩ := Option.isSome_iff_exists.1 returns
    exact ⟨e, (result_evaluate_past {} adults tangled idle).trans (ok_of_toOption came)⟩

end Service
end Eligibility
