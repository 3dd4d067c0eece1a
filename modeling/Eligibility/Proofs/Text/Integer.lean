/-
# Integers read back

An integer is written by its digits, behind a sign when it is negative.  In such a text there is
nothing to trim, no digit of another script and no low line, so it is a bare numeral as it stands
(`bareNumeral?_of_plain`), and it is read back to the integer (`integer?_toString`).
-/

import Eligibility.Proofs.Text.Digits

namespace Eligibility
namespace Text

theorem asciiOf_of_isDigit {c : Char} (digit : c.isDigit = true) : asciiOf c = c := by
  have low : 48 ≤ c.toNat := by
    simp only [Char.isDigit, Bool.and_eq_true, decide_eq_true_eq] at digit
    exact digit.1
  have same : 48 + (c.toNat - 48) = c.toNat := by omega
  rw [asciiOf, digit?_of_isDigit digit, asciiDigit?, if_pos digit]
  dsimp only
  rw [same, Char.ofNat_toNat]

/-- Without low lines there is nothing to take out. -/
theorem ungroup?_of_not_mem {cs : List Char} (ungrouped : '_' ∉ cs) (after : Bool) :
    ungroup? after cs = some cs := by
  induction cs generalizing after with
  | nil => cases after <;> rfl
  | cons c rest ih =>
    rw [List.mem_cons, not_or] at ungrouped
    have step : ungroup? after (c :: rest) = (ungroup? c.isDigit rest).map (c :: ·) := by
      rw [ungroup?]
      · intro _ _ low
        exact absurd low.symm ungrouped.1
      · intro low
        exact absurd low.symm ungrouped.1
    rw [step, ih ungrouped.2, Option.map_some]

/-- A text of ASCII digits and signs is a bare numeral already. -/
theorem bareNumeral?_of_plain {s : String}
    (plain : ∀ c ∈ s.toList, c.isDigit = true ∨ c = '-') : bareNumeral? s = some s.toList := by
  have solid : ∀ c ∈ s.toList, isNumeralSpace c = false := by
    intro c member
    obtain digit | rfl := plain c member
    · rw [isNumeralSpace, isBlank_of_isDigit digit, Bool.false_and]
    · rfl
  have ascii : ∀ c ∈ s.toList, asciiOf c = id c := by
    intro c member
    obtain digit | rfl := plain c member
    · exact asciiOf_of_isDigit digit
    · rfl
  have ungrouped : '_' ∉ s.toList := by
    intro member
    obtain digit | minus := plain '_' member
    · cases digit
    · cases minus
  rw [bareNumeral?, trimBy_of_none solid, List.map_congr_left ascii, List.map_id,
    ungroup?_of_not_mem ungrouped]

/-- Digits alone are no sign. -/
theorem readSign_toDigits (n : Nat) :
    readSign (Nat.toDigits 10 n) = (false, Nat.toDigits 10 n) := by
  obtain ⟨c, cs, shown, digit⟩ := head_toDigits n
  rw [shown]
  unfold readSign
  split
  · next same =>
    obtain rfl := (List.cons.inj same).1
    cases digit
  · next same =>
    obtain rfl := (List.cons.inj same).1
    cases digit
  · rfl

/-- The digits of a number behind what was read as a sign. -/
theorem readDigits_toDigits (n : Nat) :
    readDigits (Nat.toDigits 10 n) = (valuesOf (Nat.toDigits 10 n), []) := by
  have stop : NoDigit [] := nofun
  have read := readDigits_append (fun _ => isDigit_of_mem_toDigits (n := n)) stop
  rwa [List.append_nil] at read

theorem isEmpty_valuesOf_toDigits (n : Nat) : (valuesOf (Nat.toDigits 10 n)).isEmpty = false := by
  rw [valuesOf, List.isEmpty_map]
  exact List.isEmpty_eq_false_iff.2 Nat.toDigits_ne_nil

/-- **An integer is read back** from its digits and its sign. -/
theorem integer?_toString (n : Int) : integer? (toString n) = some n := by
  cases n with
  | ofNat n =>
    have plain : ∀ c ∈ (toString (Int.ofNat n)).toList, c.isDigit = true ∨ c = '-' := by
      rw [toList_ofNat]
      exact fun c member => .inl (isDigit_of_mem_toDigits member)
    rw [integer?, bareNumeral?_of_plain plain, toList_ofNat]
    simp only [Option.bind_eq_bind, Option.bind_some, readSign_toDigits, readDigits_toDigits,
      isEmpty_valuesOf_toDigits, ofDigits_toDigits]
    rfl
  | negSucc n =>
    have plain : ∀ c ∈ (toString (Int.negSucc n)).toList, c.isDigit = true ∨ c = '-' := by
      rw [toList_negSucc]
      intro c member
      obtain rfl | digit := List.mem_cons.1 member
      · exact .inr rfl
      · exact .inl (isDigit_of_mem_toDigits digit)
    rw [integer?, bareNumeral?_of_plain plain, toList_negSucc]
    simp only [Option.bind_eq_bind, Option.bind_some, readSign, readDigits_toDigits,
      isEmpty_valuesOf_toDigits, ofDigits_toDigits]
    rfl

end Text
end Eligibility
