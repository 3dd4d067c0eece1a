/-
# Stored results are the engine's

A service over a store in memory never tells anything about a criteria and a subject that the
engine would not tell itself (`run_transparent`).  Evaluations may overlap, entries may end, be
dropped or be thrown away as unreadable, and results may come from the store or be computed: the
outline of a result is the outline of what the engine makes of the same criteria and subject.  The
outline leaves out the values that a rule compared and a threshold that is no number, which JSON
does not bring back as they were.

Two things are asked of the callers (`Coherent`): an identifier stands for one criteria all along,
and subjects with the same key are the same subject.  Nothing is asked of the store but that it
starts empty.

The invariant is that every entry is the stored result of one of the pairs, under its key
(`Written`); a key leads back to its pair, and a stored text to the outline that it was made from.
-/

import Eligibility.Proofs.Record.RoundTrip
import Eligibility.Proofs.Service.Key
import Eligibility.Proofs.Service.Overlap
import Eligibility.Proofs.Store.Memory

namespace Eligibility
namespace Service

/-- An identifier names one criteria, and a key one subject. -/
structure Coherent (settings : Settings) (pairs : List (Criteria × Value)) : Prop where
  criteria : ∀ p ∈ pairs, ∀ q ∈ pairs,
    p.1.criteriaId.display = q.1.criteriaId.display → p.1 = q.1
  subject : ∀ p ∈ pairs, ∀ q ∈ pairs, ∀ key,
    keyOf settings p.1 p.2 = .ok key → keyOf settings q.1 q.2 = .ok key → p.2 = q.2

/-- What is told is what the engine makes of the criteria and the subject, in outline. -/
def Answer.Transparent (settings : Settings) : Answer → Prop
  | .result criteria subject e =>
    ∃ direct, Direct settings criteria subject direct ∧ e.outline = direct.outline
  | .item criteria subject told =>
    (told.result = none → told.error.isSome) ∧
      ∀ e, told.result = some e → ∃ direct, Direct settings criteria subject direct ∧
        e.outline = direct.outline ∧ told.passed = direct.passed ∧ told.score = direct.score ∧
        told.decision = some direct.decision
  | .stored .. => True

variable {settings : Settings} {pairs : List (Criteria × Value)}

/-- A result that is read back is that of the pair that was asked for. -/
theorem direct_of_explained (coherent : Coherent settings pairs) {criteria : Criteria}
    {subject : Value} {e : Evaluation}
    (explained : Explained settings (fun criteria subject => (criteria, subject) ∈ pairs)
      (FoundOf settings pairs) criteria subject e) :
    ∃ direct, Direct settings criteria subject direct ∧ e.outline = direct.outline := by
  rcases explained with direct | ⟨asked, key, value, known, found, read⟩
  · exact ⟨e, direct, rfl⟩
  · obtain ⟨tags, other, otherSubject, pair, stored, -⟩ := found
    obtain ⟨direct, computed, written⟩ := stored.value
    have sameCriteria : criteria = other :=
      coherent.criteria _ asked _ pair (keyOf_inj known stored.key).1
    have sameSubject : subject = otherSubject :=
      coherent.subject _ asked _ pair key known stored.key
    rw [sameCriteria, sameSubject]
    exact ⟨direct, computed, Evaluation.outline_of_ofStored? written read⟩

theorem passed_of_outline {e direct : Evaluation} (same : e.outline = direct.outline) :
    e.passed = direct.passed ∧ e.score = direct.score ∧ e.decision = direct.decision := by
  have passed := congrArg Evaluation.passed same
  have score := congrArg Evaluation.score same
  have decision := congrArg Evaluation.decision same
  exact ⟨passed, score, decision⟩

theorem transparent_of_explained (coherent : Coherent settings pairs) {a : Answer}
    (explained : a.Explained settings (fun criteria subject => (criteria, subject) ∈ pairs)
      (FoundOf settings pairs)) : a.Transparent settings := by
  cases a with
  | result criteria subject e => exact direct_of_explained coherent explained
  | item criteria subject told =>
    refine ⟨explained.failed, fun e there => ?_⟩
    obtain ⟨found, passed, score, decision⟩ := explained.explained e there
    obtain ⟨direct, computed, same⟩ := direct_of_explained coherent found
    have outline := passed_of_outline same
    exact ⟨direct, computed, same, passed.trans outline.1, score.trans outline.2.1,
      decision.trans (congrArg some outline.2.2)⟩
  | stored => exact True.intro

/-- **A service tells what the engine tells**, whether it finds results or computes them, in
whatever order evaluations begin and end and whatever is dropped or ends between them. -/
theorem run_transparent (settings : Settings) {service : Service Memory}
    (noEntry : service.store.entries = .empty) (noTag : service.store.index = .empty)
    {turns : List (Turn Double)} (coherent : Coherent settings (Crowd.pairsOf settings turns)) :
    ∀ a ∈ (Crowd.run settings turns ⟨service, []⟩).1, a.Transparent settings := by
  intro a told
  have keeps := Memory.keeps (IsKey settings) (Written settings fun criteria subject =>
    (criteria, subject) ∈ Crowd.pairsOf settings turns)
  refine transparent_of_explained coherent (Crowd.run_keeps keeps (fun _ member => member)
    (Memory.keeps_flush _) (fun seconds m inv => ?_) ⟨⟨?_, ?_⟩, ?_⟩ a told)
  · exact inv
  · exact Memory.all_empty noEntry
  · exact Memory.indexed_empty noEntry noTag
  · simp

/-- One evaluation waits while another of the same pair is carried out, dropped and let go by. -/
def overlapping : List (Turn Double) :=
  [.embark adults twenty none, .move (.evaluate (some adults) twenty none),
    .move (.dropCriteria "adults"), .move (.outside (.ofNat 60)), .conclude 0,
    .move (.batch (some adults) [twenty] true)]

/-- The requirements can be met. -/
theorem run_transparent_overlapping :
    Coherent {} (Crowd.pairsOf {} overlapping) ∧
      ∀ a ∈ (Crowd.run {} overlapping ⟨{ store := ({} : Memory) }, []⟩).1, a.Transparent {} := by
  have one : ∀ p ∈ Crowd.pairsOf ({} : Settings) overlapping, p = (adults, twenty) := by
    simp [overlapping, Crowd.pairsOf, Turn.pairs, Move.pairs]
  have coherent : Coherent {} (Crowd.pairsOf {} overlapping) := by
    constructor
    · intro p member q member' _
      rw [one p member, one q member']
    · intro p member q member' _ _ _
      rw [one p member, one q member']
  exact ⟨coherent, run_transparent {} rfl rfl coherent⟩

end Service
end Eligibility
