/-
# Dropping results behind a client that fails

Any command may fail, at any time, and a put that fails may leave its value behind.  When the
results of a criteria are dropped, exactly those of its values stay that are not in the set of the
criteria's tag (`held_dropTag`); they were left by puts that broke off between the value and
the first tag (`TornAt`), and they are served from then on (`evaluate_of_held`).  Under every
other key whatever is told is told since (`since_dropCriteria_of_faults`).

Besides the faults, sets may end before their members when a put broke off before it renewed them.
What is asked for is that no emptying breaks off: its pages come in no order that a client
promises, and the set of a tag may be among the first.
-/

import Eligibility.Proofs.Record.RoundTrip
import Eligibility.Proofs.Service.Invalidation
import Eligibility.Proofs.Service.Parts
import Eligibility.Proofs.Trial

namespace Eligibility

namespace Shared

open Client

theorem result_get_of_held {s : Shared} {c : Client} {key value : String}
    (there : s.client = some c) (calm : c.pending "get" = [])
    (held : s.held key = some value) :
    (Store.get (σ := Shared) key s).result = .ok (some value) := by
  have found : (Client.value (s.keyOf key) c).result = .ok (some value) := by
    rw [Shared.held, there] at held
    have obeyed : give (.value (s.keyOf key)) c =
        ⟨.ok (), { c with commands := c.commands ++ [.value (s.keyOf key)] }, []⟩ := by
      have same : ({ c with commands := c.commands ++ [.value (s.keyOf key)] } : Client).pending
          (Command.value (s.keyOf key)).word = [] := calm
      unfold give
      dsimp only
      rw [same]
    rw [Client.value, Action.result_bind (congrArg Outcome.result obeyed), obeyed]
    exact congrArg Except.ok held
  have operated := operation_of_ok (x := fun s => Client.value (s.keyOf key)) "get" there found
  exact (Action.result_bind operated).trans rfl

variable {settings : Settings} {W : String → String → List String → Prop} {space : String}
  {calm : Client → Prop} {excused : String → List Command → Prop}

/-- What stands under a tag. -/
def members (s : Shared) (tag : String) : List String :=
  (s.client.map fun c => c.setAt (s.tagKeyOf tag)).getD []

/-- **Of the values those stay that are not under the tag** that is dropped. -/
theorem held_dropTag {s : Shared} {key tag value : String} (apart : Apart key) {count : Nat}
    (came : (Store.dropTag (σ := Shared) tag s).result = .ok count) :
    (Store.dropTag (σ := Shared) tag s).state.held key = some value ↔
      s.held key = some value ∧ s.keyOf key ∉ s.members tag := by
  obtain ⟨c, there, dropped, state⟩ := dropTag_eq_ok came
  obtain ⟨keys, gone, -, all⟩ := dropMembers_cases tag s c
  have removed : s.keyOf key ∈ keys ↔ s.keyOf key ∈ c.setAt (s.tagKeyOf tag) := by
    rw [all ⟨count, dropped⟩, List.mem_append, mem_membersOf]
    exact or_iff_left fun same => valueKey_ne_tagKey apart tag (List.mem_singleton.1 same)
  rw [state, held, held, members, there]
  show (dropMembers tag s c).state.values.get? (s.keyOf key) = some value ↔
    c.values.get? (s.keyOf key) = some value ∧ s.keyOf key ∉ c.setAt (s.tagKeyOf tag)
  rw [gone.values]
  by_cases member : s.keyOf key ∈ c.setAt (s.tagKeyOf tag)
  · simp [member, removed.2 member]
  · simp [member, mt removed.1 member]

/-- What is held is known, and is still known better for being held. -/
theorem InOrder.known {s : Shared} {N : String → String → Prop}
    (kept : InOrder space W N calm excused s) :
    InOrder space (fun key value tags => W key value tags ∧ s.held key = some value) N calm excused
      s := by
  obtain ⟨same, c, there, filed, isCalm⟩ := kept
  refine ⟨same, c, there, filed.sharpen fun key value tags found w _ => ⟨w, ?_⟩, isCalm⟩
  subst same
  rw [held, there]
  exact found

theorem InOrder.held {s : Shared} {N : String → String → Prop} {key value : String}
    (kept : InOrder space W N calm excused s) (found : s.held key = some value) :
    ∃ tags, W key value tags := by
  obtain ⟨same, c, there, filed, -⟩ := kept
  rw [Shared.held, there] at found
  obtain ⟨key', tags, eq, w, -⟩ := filed.values _ value found
  subst same
  obtain rfl : key = key' := valueKey_inj eq
  exact ⟨tags, w⟩

end Shared

namespace Service

variable {settings : Settings} {criteria : Criteria} {subject : Value}

/-- A value that is held is served. -/
theorem evaluate_of_held {s : Service Shared} {c : Client} {key value : String} {e : Evaluation}
    (accepted : settings.validateInput = true →
      (Subject.validate settings subject).result = .ok ())
    (known : keyOf settings criteria subject = .ok key) (there : s.store.client = some c)
    (calm : c.pending "get" = []) (held : s.store.held key = some value)
    (read : Evaluation.ofStored? value = some e) :
    (evaluate settings (some criteria) subject (some true) s).result = .ok e := by
  refine result_attended ?_
  generalize opened : openContext criteria s = t
  have found : (inStore (Store.get (σ := Shared) key) t).result = .ok (some value) := by
    subst opened
    exact Shared.result_get_of_held there calm held
  have fetched : (fetch (σ := Shared) key t).result = .ok (some e) := by
    refine (Action.result_bind found).trans ?_
    simp only [read]
    rfl
  have looked : (lookup (σ := Shared) key true t).result = .ok (some e) :=
    (Action.result_bind fetched).trans rfl
  have embarked : (embark (σ := Shared) settings criteria subject true t).result =
      .ok (.done e) := by
    obtain ⟨passed, same⟩ := accept_apply accepted t
    unfold embark
    rw [Action.result_bind passed, same, if_pos rfl]
    have given : (Action.ofExcept (keyOf settings criteria subject) t).result = .ok key := known
    refine (Action.result_bind given).trans ((Action.result_bind looked).trans rfl)
  exact (Action.result_bind embarked).trans rfl

/-- A store behind any client is kept in order, whatever happens to the client. -/
theorem orderly_any (plain : NoTagPrefix settings) (space : String) :
    Orderly settings (fun _ => True)
      (fun W => Shared.InOrder space W (MayCarry settings) (fun _ => True) Client.TornAt)
      (Shared.Excused Client.TornAt) :=
  Shared.orderly plain Shared.manner_any fun _ event _ _ kept =>
    ⟨Shared.filed_befall kept.1 event, True.intro⟩

/-- What stays of a criteria after its results were dropped was left by a put that broke off. -/
theorem torn_of_held (plain : NoTagPrefix settings) {space : String}
    {W : String → String → List String → Prop} (labelled : Labelled settings W) {s : Shared}
    (kept : Shared.InOrder space W (MayCarry settings) (fun _ => True) Client.TornAt s)
    {criteriaId : String} {count : Nat}
    (dropped : (Store.dropTag (σ := Shared) (criteriaTag criteriaId) s).result = .ok count)
    {key value : String} (known : keyOf settings criteria subject = .ok key)
    (same : criteria.criteriaId.display = criteriaId)
    (found : (Store.dropTag (σ := Shared) (criteriaTag criteriaId) s).state.held key = some value) :
    (Store.dropTag (σ := Shared) (criteriaTag criteriaId) s).state.Excused Client.TornAt key := by
  have after := (orderly_any plain space).dropTag W labelled _ s kept count dropped
  obtain ⟨tags, w, excuse⟩ := Shared.InOrder.held after found
  obtain ⟨other, otherSubject, known', rfl⟩ := labelled key value tags w
  refine excuse ?_
  rw [← same, (keyOf_inj known known').1]
  rfl

/-- **What is told about a criteria after its results were dropped behind a client that fails.**
A value stays exactly when it is not under the tag of the criteria; then it was left by a put that
was broken off, and it is served from then on.  Under a key where none stays, whatever is told is
told since. -/
theorem since_dropCriteria_of_faults (plain : NoTagPrefix settings) {s : Service Shared}
    {c : Client} (there : s.store.client = some c) (noValue : c.values = .empty)
    (noSet : c.sets = .empty) {first later : List (Move Shared.Happening)} {criteriaId : String}
    {count : Nat} {before after : Service Shared} (ran : (run settings first s).2 = before)
    (dropped : (dropCriteria criteriaId before).result = .ok count)
    (left : (dropCriteria criteriaId before).state = after)
    (flushed : Flushed settings first s) (flushed' : Flushed settings later after) :
    (∀ criteria subject key, keyOf settings criteria subject = .ok key →
      criteria.criteriaId.display = criteriaId → ∀ value,
        (after.store.held key = some value ↔ before.store.held key = some value ∧
          before.store.keyOf key ∉ before.store.members (criteriaTag criteriaId)) ∧
        (after.store.held key = some value → after.store.Excused Client.TornAt key ∧
          ∀ d e, after.store.client = some d → d.pending "get" = [] →
            (settings.validateInput = true →
              (Subject.validate settings subject).result = .ok ()) →
            Evaluation.ofStored? value = some e →
            (evaluate settings (some criteria) subject (some true) after).result = .ok e)) ∧
    ∀ a ∈ (run settings later after).1, a.criteria.criteriaId.display = criteriaId →
      (∀ key, keyOf settings a.criteria a.subject = .ok key → after.store.held key = none) →
      a.Since settings (pairsOf settings later) := by
  have orderly := orderly_any plain s.store.space
  have labelled := labelled_written settings fun criteria subject =>
    (criteria, subject) ∈ pairsOf settings first
  have kept := orderly.run (fun W => ⟨rfl, c, there, Shared.filed_empty noValue noSet, True.intro⟩)
    (fun _ _ => True.intro) flushed
  rw [ran] at kept
  have store : after.store = (Store.dropTag (criteriaTag criteriaId) before.store).state := by
    rw [← left, store_dropCriteria, dropping_of_tags rfl]
  rw [result_dropCriteria, dropping_of_tags rfl] at dropped
  refine ⟨fun criteria subject key known same value => ⟨?_, fun found => ⟨?_, ?_⟩⟩, ?_⟩
  · rw [store]
    exact Shared.held_dropTag (apart_of_keyOf plain known) dropped
  · rw [store] at found ⊢
    exact torn_of_held plain labelled kept dropped known same found
  · exact fun d e isClient calm accepted read =>
      evaluate_of_held accepted known isClient calm found read
  · have inOrder := (orderly.dropTag _ labelled _ _ kept count dropped)
    rw [← store] at inOrder
    have known := orderly.more _ (KeptSince settings (pairsOf settings later) criteriaId
      fun key => after.store.held key ≠ none) _ (fun key value tags w => .inr ?_) inOrder.known
    · intro a member same none
      exact orderly.since known (fun _ _ => True.intro) flushed' a member same
        fun key known some => some (none key known)
    · obtain ⟨⟨⟨criteria, subject, -, stored, rfl⟩, -⟩, found⟩ := w
      refine ⟨criteria, subject, stored.key, rfl, fun _ absent => ?_⟩
      rw [found] at absent
      cases absent

/-! ### A put that breaks off -/

/-- A result is put, and the client refuses to put its key under the first tag. -/
def broken : List (Move Shared.Happening) :=
  [.outside (.fails "sadd" [some { kind := "ConnectionError", message := "refused", own := true }]),
    .evaluate (some adults) twenty none]

/-- The service behind whose client the put broke off. -/
def interrupted : Service Shared := (run {} broken { store := { client := some {} } }).2

/-- The service after the results of the criteria were dropped. -/
def dropped : Service Shared := (dropCriteria "adults" interrupted).state

/-- The criteria as it was changed since. -/
def stricter : Criteria := adults.withExpected 0 (.int 21)

/-- The requirements can be met: the key whose put broke off is not under the tag. -/
theorem since_dropCriteria_of_broken_put : NoTagPrefix {} ∧
    (dropCriteria "adults" interrupted).result = .ok 0 ∧
    ∀ key, keyOf {} adults twenty = .ok key → ∀ value,
      (dropped.store.held key = some value ↔ interrupted.store.held key = some value ∧
        interrupted.store.keyOf key ∉ interrupted.store.members (criteriaTag "adults")) := by
  have plain : NoTagPrefix {} := by decide
  have ended : (dropCriteria "adults" interrupted).result = .ok 0 :=
    ok_of_toOption (by decide +kernel)
  refine ⟨plain, ended, fun key known value => ?_⟩
  have flushed : Flushed {} broken ({ store := { client := some {} } } : Service Shared) :=
    ⟨nofun, nofun, True.intro⟩
  have flushed' : Flushed {} [.evaluate (some stricter) twenty none] dropped :=
    ⟨nofun, True.intro⟩
  have since := since_dropCriteria_of_faults plain rfl rfl rfl rfl ended rfl flushed flushed'
  have sameId : adults.criteriaId.display = "adults" := by decide
  exact (since.1 adults twenty key known sameId value).1

/-- **A result can outlive the dropping of its criteria**: the put broke off between the value and
its first tag, so nothing is dropped, and the old result is served for a criteria that the subject
does not pass any more. -/
theorem stale_after_broken_put :
    (dropCriteria "adults" interrupted).result = .ok 0 ∧
      (∃ e, (evaluate {} (some stricter) twenty (some true) dropped).result = .ok e ∧
        e.passed = true) ∧
      (stricter.evaluate {} twenty).result.toOption.map (·.passed) = some false := by
  have ended : (dropCriteria "adults" interrupted).result = .ok 0 :=
    ok_of_toOption (by decide +kernel)
  refine ⟨ended, ?_, by decide +kernel⟩
  rw [result_dropCriteria, dropping_of_tags rfl] at ended
  have store : dropped.store =
      (Store.dropTag (σ := Shared) (criteriaTag "adults") interrupted.store).state := by
    rw [dropped, store_dropCriteria, dropping_of_tags rfl]
  -- What is held was written by the put; its text is not computed here, and not read.
  have plain : NoTagPrefix {} := by decide
  have flushed : Flushed {} broken ({ store := { client := some {} } } : Service Shared) :=
    ⟨nofun, nofun, True.intro⟩
  have kept := (orderly_any plain "eligibility").run
    (fun W => ⟨rfl, {}, rfl, Shared.filed_empty rfl rfl, True.intro⟩) (fun _ _ => True.intro) flushed
  have present : ((keyOf {} stricter twenty).toOption.bind dropped.store.held).isSome = true := by
    decide +kernel
  obtain ⟨value, found⟩ := Option.isSome_iff_exists.1 present
  obtain ⟨key, known, held⟩ := Option.bind_eq_some_iff.1 found
  have apart : Shared.Apart key := apart_of_keyOf (by decide) (ok_of_toOption known)
  have before : interrupted.store.held key = some value :=
    ((Shared.held_dropTag apart ended).1 (store ▸ held)).1
  obtain ⟨tags, criteria, subject, pair, ⟨-, e, direct, stored⟩, -⟩ :=
    Shared.InOrder.held kept before
  obtain ⟨rfl, rfl⟩ : criteria = adults ∧ subject = twenty := by
    simpa [broken, pairsOf, Move.pairs] using pair
  have shape : (adults.evaluate {} twenty).result.toOption.map (fun e => (e.passed, e.readsBack)) =
      some (true, true) := by decide +kernel
  rw [show (adults.evaluate {} twenty).result = .ok e from direct] at shape
  obtain ⟨passed, readable⟩ : e.passed = true ∧ e.readsBack = true := by
    simpa [Except.toOption] using shape
  refine ⟨e.reread, ?_, passed⟩
  have read := Evaluation.ofStored?_stored e stored
  rw [readable, if_pos rfl] at read
  have accepted : (Subject.validate {} twenty).result = .ok () := ok_of_toOption (by decide +kernel)
  have client : dropped.store.client.any fun c => (c.pending "get").isEmpty := by decide +kernel
  obtain ⟨c, there, calm⟩ := (Option.any_eq_true _ _).1 client
  exact evaluate_of_held (fun _ => accepted) (ok_of_toOption known) there
    (List.isEmpty_iff.1 calm) held read

end Service
end Eligibility
