/-
# Keys of stored results

A key is the prefix, the identifier of the criteria and the digest of the subject, with a colon
between two of them.  The digest has no colon, so the last colon of a key parts the identifier
from the digest, whatever colons the identifier has: equal keys come from equal identifiers and
equal digests (`keyOf_inj`).
-/

import Eligibility.Proofs.Text.Digits
import Eligibility.Service.Basic

namespace Eligibility

/-- The digits of a digest are no colons. -/
theorem Digest.colon_not_mem (s : String) : ':' ∉ (Digest.ofAscii s).toList := by
  intro member
  simp only [ofAscii, String.toList_join, List.mem_flatMap, List.mem_map] at member
  obtain ⟨_, ⟨byte, _, rfl⟩, member⟩ := member
  rw [Text.padded_toList, List.mem_append] at member
  rcases member with zero | digit
  · exact absurd (List.eq_of_mem_replicate zero) (by decide)
  · exact Text.colon_not_mem_toDigits (by decide) byte.toNat digit

namespace Service

/-- The last colon of a text parts it in one way. -/
theorem append_colon_inj {a b c d : List Char} (left : ':' ∉ b) (right : ':' ∉ d)
    (same : a ++ ':' :: b = c ++ ':' :: d) : a = c ∧ b = d := by
  rcases List.append_eq_append_iff.1 same with ⟨more, rfl, rest⟩ | ⟨more, rfl, rest⟩
  · cases more with
    | nil => exact ⟨by simp, by simpa using rest⟩
    | cons x more =>
      simp only [List.cons_append, List.cons.injEq] at rest
      exact absurd (by simp [rest.2]) left
  · cases more with
    | nil => exact ⟨by simp, (by simpa using rest.symm)⟩
    | cons x more =>
      simp only [List.cons_append, List.cons.injEq] at rest
      exact absurd (by simp [rest.2]) right

variable {settings : Settings} {criteria other : Criteria} {subject otherSubject : Value}
  {key : String}

theorem keyOf_eq_ok (known : keyOf settings criteria subject = .ok key) :
    ∃ digest, Canonical.digest subject = .ok digest ∧ ':' ∉ digest.toList ∧
      key = settings.keyPrefix ++ ":" ++ criteria.criteriaId.display ++ ":" ++ digest := by
  unfold keyOf at known
  split at known
  · next digest found =>
    refine ⟨digest, found, ?_, (Except.ok.inj known).symm⟩
    unfold Canonical.digest at found
    cases text : Canonical.text subject with
    | error fault =>
      rw [text] at found
      cases found
    | ok s =>
      rw [text] at found
      obtain rfl := Except.ok.inj found
      exact Digest.colon_not_mem s
  · cases known

/-- **A key tells its criteria and its subject apart**, by the identifier and the digest. -/
theorem keyOf_inj (known : keyOf settings criteria subject = .ok key)
    (known' : keyOf settings other otherSubject = .ok key) :
    criteria.criteriaId.display = other.criteriaId.display ∧
      Canonical.digest subject = Canonical.digest otherSubject := by
  obtain ⟨digest, found, plain, shown⟩ := keyOf_eq_ok known
  obtain ⟨digest', found', plain', shown'⟩ := keyOf_eq_ok known'
  have same := congrArg String.toList (shown.symm.trans shown')
  simp only [String.toList_append, List.append_assoc] at same
  have later := List.append_cancel_left (List.append_cancel_left same)
  obtain ⟨ids, digests⟩ := append_colon_inj plain plain' later
  rw [found, found', String.toList_inj.1 ids, String.toList_inj.1 digests]
  exact ⟨rfl, rfl⟩

end Service
end Eligibility
