/-
# What is told after results were dropped

When the results of a criteria are dropped, whatever is told about it from then on was computed
since, or read back from what was kept since (`Orderly.since`).  What a store has to do for
that is said once for all stores (`Orderly`): its operations keep it in order, dropping a tag
leaves no entry whose first tag it is, and an emptying leaves no entry at all.  Entries that
survive with that tag all the same are excused, and nothing is said about the answers under their
keys.

A result is stored under the tag of its criteria first, and a key tells the criteria.  So an entry
under the key of a criteria carries the tag of that criteria and of no other.
-/

import Eligibility.Proofs.Service.Key
import Eligibility.Proofs.Service.Run

namespace Eligibility

/-- Less may be put. -/
theorem Store.Keeps.ofFewer {σ : Type} [Store σ] {I : σ → Prop} {κ : String → Prop}
    {R : String → String → Prop} {W W' : String → String → List String → Prop}
    (K : Store.Keeps I κ R W)
    (fewer : ∀ key value tags, W' key value tags → W key value tags) : Store.Keeps I κ R W' where
  get := K.get
  put key value lifetime tags w := K.put key value lifetime tags (fewer key value tags w)
  delete := K.delete
  holds := K.holds
  dropTag := K.dropTag
  flush := K.flush

namespace Service

variable {settings : Settings}

theorem criteriaTag_inj {a b : String} (same : criteriaTag a = criteriaTag b) : a = b := by
  have := congrArg String.toList same
  simp only [criteriaTag, String.toList_append] at this
  exact String.toList_inj.1 (List.append_cancel_left this)

/-- The tag of one criteria is among the tags of another when they have the same identifier. -/
theorem criteriaTag_mem_tagsOf {criteria : Criteria} {criteriaId : String} :
    criteriaTag criteriaId ∈ tagsOf criteria ↔ criteria.criteriaId.display = criteriaId := by
  have other : criteriaTag criteriaId ≠ evaluationsTag := by
    intro same
    have := congrArg String.toList same
    simp [criteriaTag, evaluationsTag] at this
  unfold tagsOf
  constructor
  · intro member
    rcases List.mem_cons.1 member with same | rest
    · exact (criteriaTag_inj same).symm
    · exact absurd (List.mem_singleton.1 rest) other
  · rintro rfl
    exact List.mem_cons_self

/-- A key may stand under a tag. -/
def MayCarry (settings : Settings) (key tag : String) : Prop :=
  ∃ criteria subject, keyOf settings criteria subject = .ok key ∧ tag ∈ tagsOf criteria

/-- A key that may stand under the tag of a criteria is a key of that criteria. -/
theorem MayCarry.criteria {key criteriaId : String} {criteria : Criteria} {subject : Value}
    (carries : MayCarry settings key (criteriaTag criteriaId))
    (known : keyOf settings criteria subject = .ok key) :
    criteria.criteriaId.display = criteriaId := by
  obtain ⟨other, otherSubject, known', member⟩ := carries
  rw [(keyOf_inj known known').1]
  exact criteriaTag_mem_tagsOf.1 member

/-- Whatever is kept is kept under the key and the tags of a criteria. -/
def Labelled (settings : Settings) (W : String → String → List String → Prop) : Prop :=
  ∀ key value tags, W key value tags →
    ∃ criteria subject, keyOf settings criteria subject = .ok key ∧ tags = tagsOf criteria

theorem Labelled.mayCarry {W : String → String → List String → Prop} (h : Labelled settings W) :
    ∀ key value tags, W key value tags → ∀ tag ∈ tags, MayCarry settings key tag := by
  intro key value tags w tag member
  obtain ⟨criteria, subject, known, rfl⟩ := h key value tags w
  exact ⟨criteria, subject, known, member⟩

variable {σ ω : Type} [Store σ] [Surroundings σ ω]

/-- A store is kept in order: `I W` says that it is, and that what is kept is in `W`. -/
structure Orderly (settings : Settings) (calm : ω → Prop)
    (I : (String → String → List String → Prop) → σ → Prop) (excused : σ → String → Prop) :
    Prop where
  more : ∀ W W' s, (∀ key value tags, W key value tags → W' key value tags) → I W s → I W' s
  keeps : ∀ W, Labelled settings W →
    Store.Keeps (I W) (IsKey settings) (fun key value => ∃ tags, W key value tags) W
  outside : ∀ W event, calm event → ∀ s, I W s → I W (Surroundings.occur event s)
  /-- Dropping a tag leaves no entry whose first tag it is. -/
  dropTag : ∀ W, Labelled settings W → ∀ tag s, I W s →
    ∀ count, (Store.dropTag (σ := σ) tag s).result = .ok count →
      I (fun key value tags => W key value tags ∧
        (tags.head? = some tag → excused (Store.dropTag (σ := σ) tag s).state key))
        (Store.dropTag (σ := σ) tag s).state
  /-- An emptying leaves no entry. -/
  flush : ∀ W W' s, I W s → ∀ count, (Store.flush (σ := σ) s).result = .ok count →
    I W' (Store.flush (σ := σ) s).state

variable {calm : ω → Prop} {I : (String → String → List String → Prop) → σ → Prop}
  {excused : σ → String → Prop}

/-! ### Answers -/

/-- The criteria that is told about. -/
def Answer.criteria : Answer → Criteria
  | .result criteria .. => criteria
  | .item criteria .. => criteria
  | .stored criteria .. => criteria

/-- The subject that is told about. -/
def Answer.subject : Answer → Value
  | .result _ subject _ => subject
  | .item _ subject _ => subject
  | .stored _ subject _ => subject

/-- What is told was computed for this answer, or comes from an evaluation of the pairs; and only
what comes from one of them is said to be stored. -/
def Answer.Since (settings : Settings) (pairs : List (Criteria × Value)) : Answer → Prop :=
  Answer.Explained settings (fun criteria subject => (criteria, subject) ∈ pairs)
    (FoundOf settings pairs)

theorem Answer.Explained.imp {a : Answer} {P : Criteria → Value → Prop}
    {R R' : String → String → Prop} (h : a.Explained settings P R)
    (imp : ∀ key value, keyOf settings a.criteria a.subject = .ok key → R key value →
      R' key value) : a.Explained settings P R' := by
  have recalled {e : Evaluation} (found : Service.Explained settings P R a.criteria a.subject e) :
      Service.Explained settings P R' a.criteria a.subject e := by
    rcases found with direct | ⟨pair, key, value, known, held, read⟩
    · exact .inl direct
    · exact .inr ⟨pair, key, value, known, imp key value known held, read⟩
  cases a with
  | result criteria subject e => exact recalled h
  | item criteria subject told =>
    refine ⟨h.failed, fun e there => ?_⟩
    obtain ⟨found, same⟩ := h.explained e there
    exact ⟨recalled found, same⟩
  | stored criteria subject found =>
    intro there
    obtain ⟨key, value, known, held⟩ := h there
    exact ⟨key, value, known, imp key value known held⟩

/-- What is kept after the results of a criteria were dropped: what was evaluated since, and what
is left. -/
def KeptSince (settings : Settings) (pairs : List (Criteria × Value)) (criteriaId : String)
    (excused : String → Prop) (key value : String) (tags : List String) : Prop :=
  Written settings (fun criteria subject => (criteria, subject) ∈ pairs) key value tags ∨
    ∃ criteria subject, keyOf settings criteria subject = .ok key ∧ tags = tagsOf criteria ∧
      (criteria.criteriaId.display = criteriaId → excused key)

theorem labelled_keptSince (settings : Settings) (pairs : List (Criteria × Value))
    (criteriaId : String) (excused : String → Prop) :
    Labelled settings (KeptSince settings pairs criteriaId excused) := by
  rintro key value tags (⟨criteria, subject, -, stored, rfl⟩ | ⟨criteria, subject, known, rfl, -⟩)
  · exact ⟨criteria, subject, stored.key, rfl⟩
  · exact ⟨criteria, subject, known, rfl⟩

theorem labelled_written (settings : Settings) (P : Criteria → Value → Prop) :
    Labelled settings (Written settings P) := by
  rintro key value tags ⟨criteria, subject, -, stored, rfl⟩
  exact ⟨criteria, subject, stored.key, rfl⟩

/-- What is left of a criteria after its results were dropped is excused. -/
theorem Orderly.dropCriteria (orderly : Orderly settings calm I excused)
    {W : String → String → List String → Prop} (labelled : Labelled settings W)
    (pairs : List (Criteria × Value)) {criteriaId : String} {s : Service σ} {count : Nat}
    (inv : I W s.store) (came : (dropCriteria criteriaId s).result = .ok count) :
    I (KeptSince settings pairs criteriaId (excused (Service.dropCriteria criteriaId s).state.store))
      (Service.dropCriteria criteriaId s).state.store := by
  rw [result_dropCriteria] at came
  rw [store_dropCriteria]
  unfold dropping at came ⊢
  by_cases tags : Store.supportsTags s.store
  · rw [if_pos tags] at came ⊢
    refine orderly.more _ _ _ (fun key value tags w => .inr ?_)
      (orderly.dropTag W labelled _ _ inv count came)
    obtain ⟨criteria, subject, known, rfl⟩ := labelled key value tags w.1
    refine ⟨criteria, subject, known, rfl, fun same => w.2 ?_⟩
    rw [← same]
    rfl
  · rw [if_neg tags] at came ⊢
    exact orderly.flush W _ _ inv count came

section Runs

variable {first later : List (Move ω)} {s : Service σ} {criteriaId : String}
  (orderly : Orderly settings calm I excused)

include orderly

/-- What is kept after a run are results of its pairs. -/
theorem Orderly.run (start : ∀ W, I W s.store)
    (calmly : ∀ event, .outside event ∈ first → calm event) (flushed : Flushed settings first s) :
    I (Written settings fun criteria subject => (criteria, subject) ∈ pairsOf settings first)
      (run settings first s).2.store :=
  (run_keeps (orderly.keeps _ (labelled_written settings _)) (fun _ member => member)
    (orderly.flush _ _) (fun event member => orderly.outside _ event (calmly event member))
    (start _) flushed).1

/-- **Whatever is told about a criteria after its results were dropped is told since**, unless
there is an excuse for its key. -/
theorem Orderly.since {excused : String → Prop}
    (kept : I (KeptSince settings (pairsOf settings later) criteriaId excused) s.store)
    (calmly : ∀ event, .outside event ∈ later → calm event) (flushed : Flushed settings later s) :
    ∀ a ∈ (Service.run settings later s).1, a.criteria.criteriaId.display = criteriaId →
      (∀ key, keyOf settings a.criteria a.subject = .ok key → ¬excused key) →
      a.Since settings (pairsOf settings later) := by
  have told := (run_keeps ((orderly.keeps _ (labelled_keptSince _ _ _ _)).ofFewer
    fun _ _ _ => .inl) (fun _ member => member) (orderly.flush _ _)
    (fun event member => orderly.outside _ event (calmly event member)) kept flushed).2
  intro a member same untorn
  refine (told a member).imp fun key value known found => ?_
  obtain ⟨tags, written | ⟨criteria, subject, known', -, excuse⟩⟩ := found
  · exact ⟨tags, written⟩
  · have id : criteria.criteriaId.display = criteriaId := (keyOf_inj known' known).1.trans same
    exact absurd (excuse id) (untorn key known)

/-- Where an emptying always comes to its end, it does so along a run. -/
theorem Orderly.flushed (always : ∀ W s, I W s →
      ∃ count, (Store.flush (σ := σ) s).result = .ok count)
    {W : String → String → List String → Prop} (labelled : Labelled settings W)
    (written : ∀ key value tags, Written settings (fun criteria subject =>
      (criteria, subject) ∈ pairsOf settings later) key value tags → W key value tags)
    (kept : I W s.store) (calmly : ∀ event, .outside event ∈ later → calm event) :
    Flushed settings later s :=
  flushed_of_always ((orderly.keeps W labelled).ofFewer written) (fun _ member => member)
    (orderly.flush W W) (fun event member => orderly.outside W event (calmly event member)) kept
    (always W)

end Runs

/-! ### Stores that never fail -/

/-- Dropping a tag and an emptying come to their end. -/
structure Unfailing (I : (String → String → List String → Prop) → σ → Prop) : Prop where
  dropTag : ∀ W s, I W s → ∀ tag, ∃ count, (Store.dropTag (σ := σ) tag s).result = .ok count
  flush : ∀ W s, I W s → ∃ count, (Store.flush (σ := σ) s).result = .ok count

/-- What is kept after any run are results of its pairs. -/
theorem Unfailing.run (unfailing : Unfailing (σ := σ) I)
    (orderly : Orderly settings calm I excused) {s : Service σ} (start : ∀ W, I W s.store)
    (first : List (Move ω)) (calmly : ∀ event, .outside event ∈ first → calm event) :
    I (Written settings fun criteria subject => (criteria, subject) ∈ pairsOf settings first)
      (Service.run settings first s).2.store :=
  orderly.run start calmly (orderly.flushed unfailing.flush (labelled_written settings _)
    (fun _ _ _ => id) (start _) calmly)

end Service
end Eligibility
