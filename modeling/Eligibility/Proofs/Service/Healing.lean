/-
# Texts that cannot be read

A text under the key of a pair that cannot be read is as good as none.  An evaluation of the pair
that returns has thrown it away and put the engine's result in its place, whatever the tags of the
old entry were and whether or not its time was over.

| part | entry under the key | counted |
| --- | --- | --- |
| the first look-up | removed, with its place under each of its tags | a miss |
| the look-up under the lock | there is none | |
| the engine | | a run |
| the put | the result, under the tags of its criteria | |

From then on every entry under the key carries the tag of its criteria, so dropping the results of
the criteria removes it, however late (`evaluate_heals`).
-/

import Eligibility.Proofs.Service.Again
import Eligibility.Proofs.Service.Failing
import Eligibility.Proofs.Service.Tally

namespace Eligibility

namespace Memory

variable {m : Memory} {key : String}

/-- There is no entry under a key that can be read. -/
def Unreadable (m : Memory) (key : String) : Prop :=
  ∀ entry, m.entries.get? key = some entry → Evaluation.ofStored? entry.value = none

theorem unreadable_remove (m : Memory) (key : String) : (m.remove key).Unreadable key := by
  intro entry there
  rw [get?_remove, if_pos rfl] at there
  cases there

end Memory

namespace Service

variable {settings : Settings} {criteria : Criteria} {subject : Value} {key : String}
  {e : Evaluation} {useStore? : Option Bool} {s : Service Memory}

/-! ### Parts of an evaluation -/

/-- What cannot be read is removed: by the look-up, when its time is over, and else when it has been
read in vain. -/
theorem fetch_unreadable (unreadable : s.store.Unreadable key) :
    (fetch key s).result = .ok none ∧
      (fetch key s).state = { s with store := s.store.remove key } := by
  have got : inStore (Store.get key) s =
      ⟨.ok (s.store.get key).1, { s with store := (s.store.get key).2 }, []⟩ := rfl
  rw [fetch, Action.bind_of_eq_ok got]
  cases live : s.store.live? key with
  | none =>
    rw [Memory.get, live]
    exact ⟨rfl, rfl⟩
  | some value =>
    have found : (s.store.get key).1 = some value := by rw [Memory.get, live]
    obtain ⟨entry, there, rfl⟩ := Memory.entry_of_get found
    rw [Memory.get, live]
    dsimp only
    rw [unreadable entry there]
    exact ⟨rfl, rfl⟩

theorem lookup_unreadable (unreadable : s.store.Unreadable key) (countMisses : Bool) :
    (lookup key countMisses s).result = .ok none ∧
      (lookup key countMisses s).state.store = s.store.remove key ∧
      tally (lookup key countMisses s).state =
        if countMisses then (tally s).missed else tally s := by
  obtain ⟨result, state⟩ := fetch_unreadable unreadable
  have counted : tally (lookup key countMisses s).state = _ := counts_lookup countMisses s
  rw [lookup, Action.bind_apply, result, state] at counted ⊢
  cases countMisses with
  | false => exact ⟨rfl, rfl, counted⟩
  | true => exact ⟨rfl, rfl, counted⟩

/-- The result of the engine was put in place of what was under the key. -/
structure Replaced (settings : Settings) (criteria : Criteria) (subject : Value) (key : String)
    (m : Memory) (e : Evaluation) (m' : Memory) : Prop where
  direct : Direct settings criteria subject e
  put : ∃ text expires, e.stored = .ok text ∧ m.expiry settings.lifetime = .ok expires ∧
    m' = m.put key ⟨text, expires, tagsOf criteria⟩

theorem Replaced.of_remove {m m' : Memory}
    (replaced : Replaced settings criteria subject key (m.remove key) e m') :
    Replaced settings criteria subject key m e m' := by
  obtain ⟨direct, text, expires, stored, ends, same⟩ := replaced
  rw [Memory.expiry_remove] at ends
  rw [Memory.put_remove] at same
  exact ⟨direct, text, expires, stored, ends, same⟩

theorem produce_replaces (came : (produce settings criteria subject key s).result = .ok e) :
    Replaced settings criteria subject key s.store e
        (produce settings criteria subject key s).state.store ∧
      tally (produce settings criteria subject key s).state = (tally s).ran := by
  have counted : Produced (criteria.evaluate settings subject).result.isOk (tally s)
      (produce settings criteria subject key s).result
      (tally (produce settings criteria subject key s).state) := counts_produce s
  rw [came] at counted
  refine ⟨?_, counted⟩
  obtain ⟨direct, computed, kept, state⟩ := Action.ok_of_bind came
  have still := (ends_compute settings criteria subject s).2.1
  generalize (compute settings criteria subject s).state = t at kept state still
  obtain ⟨⟨⟩, stored, ended, state'⟩ := Action.ok_of_bind kept
  obtain rfl : direct = e := Except.ok.inj ended
  obtain ⟨text, written, put, state''⟩ := Action.ok_of_bind stored
  rw [result_compute] at computed
  rw [inStore_apply] at put
  dsimp only at put
  obtain ⟨expires, ends, left⟩ := Memory.put_of_ok put
  rw [← still]
  refine ⟨computed, text, expires, written, ends, ?_⟩
  rw [produce, state, state']
  change (keep settings criteria key direct t).state.store = _
  rw [keep, state'', inStore_apply]
  dsimp only
  exact left

/-- An evaluation that meets nothing it can read has put the engine's result in its place. -/
theorem ends_unreadable (known : keyOf settings criteria subject = .ok key)
    (unreadable : s.store.Unreadable key) :
    Ends (embark settings criteria subject true >>= conclude settings criteria subject) s
      fun r t => ∀ e, r = .ok e → Replaced settings criteria subject key s.store e t.store ∧
        tally t = (tally s).missed.ran := by
  have begun : Ends (embark settings criteria subject true) s fun r t =>
      ∀ p, r = .ok p → p = .pending key ∧ t.store = s.store.remove key ∧
        tally t = (tally s).missed := by
    refine Ends.embarking (P := fun key' r t => key' = key ∧ r = .ok none ∧
        t.store = s.store.remove key ∧ tally t = (tally s).missed)
      (fun _ _ _ no => by cases no) (fun _ _ _ no => by cases no) (fun key' known' => ?_) ?_ ?_ ?_
    · obtain rfl : key = key' := Except.ok.inj (known.symm.trans known')
      exact ⟨rfl, lookup_unreadable unreadable true⟩
    · rintro _ failure t ⟨-, no, -⟩
      cases no
    · rintro _ e t ⟨-, no, -⟩
      cases no
    · rintro _ t ⟨rfl, -, store, counted⟩ p same
      obtain rfl := Except.ok.inj same
      exact ⟨rfl, store, counted⟩
  refine begun.bind (fun _ _ _ _ no => by cases no) fun p t looked => ?_
  obtain ⟨rfl, store, counted⟩ := looked p rfl
  rw [← counted]
  intro e came
  change Replaced settings criteria subject key s.store e
      (settle settings criteria subject key t).state.store ∧
    tally (settle settings criteria subject key t).state = _
  have came : (settle settings criteria subject key t).result = .ok e := came
  have still : t.store.Unreadable key := store ▸ Memory.unreadable_remove s.store key
  obtain ⟨result, store', counted'⟩ := lookup_unreadable still false
  rw [settle_eq, Action.bind_apply, result] at came ⊢
  obtain ⟨replaced, ran⟩ := produce_replaces came
  rw [store', store, Memory.remove_remove] at replaced
  rw [counted'] at ran
  exact ⟨replaced.of_remove, ran⟩

/-! ### Dropping it later -/

/-- Whatever is under a key carries a tag, and the index follows the entries. -/
def Carries (key tag : String) (m : Memory) : Prop :=
  m.All (fun k _ tags => k = key → tag ∈ tags) ∧ m.Indexed

/-- Nothing else is ever put under the key of a pair but results of its criteria. -/
theorem carries_run (known : keyOf settings criteria subject = .ok key)
    (start : Carries key (criteriaTag criteria.criteriaId.display) s.store)
    (moves : List (Move Double)) :
    Carries key (criteriaTag criteria.criteriaId.display) (run settings moves s).2.store := by
  have written (k v : String) (tags : List String) (h : Written settings (fun _ _ => True) k v tags) :
      k = key → criteriaTag criteria.criteriaId.display ∈ tags := by
    obtain ⟨other, otherSubject, -, stored, rfl⟩ := h
    rintro rfl
    exact criteriaTag_mem_tagsOf.2 (keyOf_inj stored.key known).1
  have K := (Memory.keeps (IsKey settings) _).ofFewer written
  have flush (m : Memory) (_ : Carries key (criteriaTag criteria.criteriaId.display) m)
      (count : Nat) (_ : (Store.flush m).result = .ok count) :
      Carries key (criteriaTag criteria.criteriaId.display) (Store.flush m).state :=
    ⟨Memory.all_empty rfl, Memory.indexed_empty rfl rfl⟩
  have flushed : Flushed settings moves s := flushed_of_always K (fun _ _ => True.intro) flush
    (fun _ _ _ inv => inv) start fun m _ => ⟨_, rfl⟩
  exact (run_keeps K (fun _ _ => True.intro) flush (fun _ _ _ inv => inv) start flushed).1

theorem dropCriteria_removes {criteriaId : String}
    (carries : Carries key (criteriaTag criteriaId) s.store) :
    (∃ count, (dropCriteria criteriaId s).result = .ok count) ∧
      (dropCriteria criteriaId s).state.store.entries.get? key = none := by
  rw [result_dropCriteria, store_dropCriteria]
  unfold dropping
  split
  · refine ⟨⟨_, rfl⟩, ?_⟩
    change (s.store.dropTag (criteriaTag criteriaId)).2.entries.get? key = none
    rw [Memory.get?_dropTag carries.2, Option.filter_eq_none_iff]
    intro entry there
    simpa using carries.1 key entry there rfl
  · exact ⟨⟨_, rfl⟩, rfl⟩

/-! ### The whole evaluation -/

/-- What an evaluation leaves that has met a text that it cannot read. -/
structure Healed (settings : Settings) (criteria : Criteria) (subject : Value) (key : String)
    (e : Evaluation) (s t : Service Memory) : Prop where
  /-- The result is the engine's. -/
  direct : Direct settings criteria subject e
  /-- A miss was counted, and no hit. -/
  counted : t.hits = s.hits ∧ t.misses = s.misses + 1 ∧
    t.metrics.count .hits lookupLabels = s.metrics.count .hits lookupLabels ∧
    t.metrics.count .misses lookupLabels = s.metrics.count .misses lookupLabels + 1
  /-- The result is kept under the key, for the lifetime of the settings. -/
  kept : ∃ text expires, e.stored = .ok text ∧ s.store.expiry settings.lifetime = .ok expires ∧
    t.store.entries.get? key = some ⟨text, expires, tagsOf criteria⟩
  /-- The key stands under the tags of its criteria and under no other. -/
  tagged : ∀ tag, key ∈ TagIndex.keysOf t.store.index tag ↔ tag ∈ tagsOf criteria
  /-- Other keys have the entries and the tags that they had. -/
  others : ∀ k ≠ key, t.store.entries.get? k = s.store.entries.get? k ∧
    ∀ tag, k ∈ TagIndex.keysOf t.store.index tag ↔ k ∈ TagIndex.keysOf s.store.index tag
  /-- However late the results of the criteria are dropped, nothing is left under the key. -/
  dropped : ∀ moves : List (Move Double),
    (∃ count, (dropCriteria criteria.criteriaId.display (run settings moves t).2).result =
        .ok count) ∧
      (dropCriteria criteria.criteriaId.display
        (run settings moves t).2).state.store.entries.get? key = none

theorem Replaced.healed {t : Service Memory} (known : keyOf settings criteria subject = .ok key)
    (indexed : s.store.Indexed) (replaced : Replaced settings criteria subject key s.store e t.store)
    (ran : tally t = (tally s).missed.ran) : Healed settings criteria subject key e s t := by
  obtain ⟨direct, text, expires, written, ends, put⟩ := replaced
  have here : t.store.entries.get? key = some ⟨text, expires, tagsOf criteria⟩ := by
    rw [put, Memory.get?_put, if_pos rfl]
  have there (k : String) (other : k ≠ key) :
      t.store.entries.get? k = s.store.entries.get? k := by
    rw [put, Memory.get?_put, if_neg other]
  have follows : t.store.Indexed := put ▸ indexed.put key _
  refine ⟨direct, ⟨congrArg Tally.hits ran, congrArg Tally.misses ran,
    congrArg Tally.listedHits ran, congrArg Tally.listedMisses ran⟩,
    ⟨text, expires, written, ends, here⟩, fun tag => ?_, fun k other => ⟨there k other, fun tag => ?_⟩,
    fun moves => dropCriteria_removes (carries_run known ⟨?_, follows⟩ moves)⟩
  · rw [follows key tag True.intro, here]
    simp
  · rw [follows k tag True.intro, indexed k tag True.intro, there k other]
  · rintro k found held rfl
    obtain rfl := Option.some.inj (here.symm.trans held)
    exact criteriaTag_mem_tagsOf.2 rfl

/-- **A text that cannot be read heals.**  An evaluation through the store that returns tells what the
engine makes of the pair, counts one miss and no hit, and has put its own result in place of the
text, under the tags of its criteria; nothing else is touched.  A store is indexed after every
history of calls (`Memory.indexed_replay`). -/
theorem evaluate_heals {entry : Entry} (used : useStore?.getD settings.storeResults = true)
    (known : keyOf settings criteria subject = .ok key)
    (stored : s.store.entries.get? key = some entry)
    (unreadable : Evaluation.ofStored? entry.value = none) (indexed : s.store.Indexed)
    (came : (evaluate settings (some criteria) subject useStore? s).result = .ok e) :
    Healed settings criteria subject key e s
      (evaluate settings (some criteria) subject useStore? s).state := by
  have through : evaluate (σ := Memory) settings (some criteria) subject useStore? =
      attended criteria (embark settings criteria subject true >>=
        conclude settings criteria subject) := by
    rw [evaluate, used]
  rw [through] at came ⊢
  rw [(attended_apply ..).1] at came
  obtain ⟨counted, left⟩ := attended_left criteria
    (embark settings criteria subject true >>= conclude settings criteria subject) s
  have nothing : (openContext criteria s).store.Unreadable key := by
    intro other there
    obtain rfl : entry = other := Option.some.inj (stored.symm.trans there)
    exact unreadable
  obtain ⟨replaced, ran⟩ := ends_unreadable known nothing e came
  rw [← counted] at ran
  rw [← left] at replaced
  generalize (attended criteria _ s).state = t at ran replaced
  exact replaced.healed known indexed ran

/-- A service with a text under a key that is no JSON, and under a tag of its own. -/
def spoiled (key : String) : Service Memory :=
  { store := ({} : Memory).put key ⟨"not json", .ofNat 2000, ["odd"]⟩ }

/-- The requirements can be met. -/
theorem evaluate_heals_adults : ∃ key e, keyOf {} adults twenty = .ok key ∧ e.passed = true ∧
    (evaluate {} (some adults) twenty none (spoiled key)).result = .ok e ∧
      Healed {} adults twenty key e (spoiled key)
        (evaluate {} (some adults) twenty none (spoiled key)).state := by
  have shape : (keyOf {} adults twenty).toOption.map (fun key =>
      (evaluate {} (some adults) twenty none (spoiled key)).result.toOption.map (·.passed)) =
        some (some true) := by decide +kernel
  obtain ⟨key, known, shape⟩ := exists_ok_of_toOption shape
  obtain ⟨e, came, passes⟩ := exists_ok_of_toOption shape
  have stored : (spoiled key).store.entries.get? key = some ⟨"not json", .ofNat 2000, ["odd"]⟩ := by
    rw [spoiled, Memory.get?_put, if_pos rfl]
  have unreadable : Evaluation.ofStored? "not json" = none := by decide +kernel
  have indexed : (spoiled key).store.Indexed :=
    Memory.Indexed.put (Memory.indexed_empty rfl rfl) key _
  exact ⟨key, e, known, passes, came, evaluate_heals rfl known stored unreadable indexed came⟩

end Service
end Eligibility
