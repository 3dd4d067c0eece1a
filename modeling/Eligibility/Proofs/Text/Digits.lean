/-
# Digits read back

The digits of a number in base ten are read back to it, with or without zeros in front and
whatever stands behind them (`readDigits_append`, `ofDigits_toDigits`), and the four
hexadecimal digits of a code unit are determined by it (`padded_sixteen_four`).
-/

import Eligibility.Text.Numeral

namespace Eligibility
namespace Text

/-- The values of ASCII digits. -/
def valuesOf (cs : List Char) : List Nat := cs.map fun c => c.toNat - 48

@[simp] theorem length_valuesOf (cs : List Char) : (valuesOf cs).length = cs.length := by
  simp [valuesOf]

theorem valuesOf_append (cs ds : List Char) :
    valuesOf (cs ++ ds) = valuesOf cs ++ valuesOf ds := by
  simp [valuesOf]

/-- No digit comes first. -/
def NoDigit (cs : List Char) : Prop := ∀ c ∈ cs.head?, c.isDigit = false

theorem noDigit_cons {c : Char} {rest : List Char} (h : c.isDigit = false) :
    NoDigit (c :: rest) := by
  simp [NoDigit, h]

theorem readDigits_append {digits rest : List Char} (all : ∀ c ∈ digits, c.isDigit = true)
    (stop : NoDigit rest) : readDigits (digits ++ rest) = (valuesOf digits, rest) := by
  have taken : rest.takeWhile Char.isDigit = [] ∧ rest.dropWhile Char.isDigit = rest := by
    cases rest with
    | nil => simp
    | cons c cs => simp [stop c rfl]
  simp only [readDigits, List.takeWhile_append_of_pos all, List.dropWhile_append_of_pos all,
    taken, List.append_nil, valuesOf]

theorem ofDigits_valuesOf (cs : List Char) : ofDigits (valuesOf cs) = Nat.ofDigitChars 10 cs 0 := by
  simp only [ofDigits, valuesOf, List.foldl_map, Nat.ofDigitChars_eq_foldl, Nat.mul_comm 10]
  rfl

theorem ofDigits_toDigits (n : Nat) : ofDigits (valuesOf (Nat.toDigits 10 n)) = n := by
  rw [ofDigits_valuesOf, Nat.ofDigitChars_ten_toDigits]

theorem ofDigits_append_zeros (cs : List Char) (count : Nat) :
    ofDigits (valuesOf (cs ++ List.replicate count '0')) =
      ofDigits (valuesOf cs) * Nat.pow 10 count := by
  rw [ofDigits_valuesOf, Nat.ofDigitChars_append, Nat.ofDigitChars_replicate_zero,
    ofDigits_valuesOf, Nat.mul_comm]
  rfl

theorem ofDigits_zeros_append (count : Nat) (cs : List Char) :
    ofDigits (valuesOf (List.replicate count '0' ++ cs)) = ofDigits (valuesOf cs) := by
  rw [ofDigits_valuesOf, Nat.ofDigitChars_append, Nat.ofDigitChars_replicate_zero,
    ofDigits_valuesOf, Nat.mul_zero]

theorem isDigit_of_mem_toDigits {n : Nat} {c : Char} (member : c ∈ Nat.toDigits 10 n) :
    c.isDigit = true :=
  Nat.isDigit_of_mem_toDigits (by decide) (by decide) member

theorem toList_repr (n : Nat) : (Nat.repr n).toList = Nat.toDigits 10 n := by
  rw [Nat.repr, String.toList_ofList]

theorem toList_ofNat (n : Nat) : (toString (Int.ofNat n)).toList = Nat.toDigits 10 n :=
  toList_repr n

theorem toList_negSucc (n : Nat) :
    (toString (Int.negSucc n)).toList = '-' :: Nat.toDigits 10 (n + 1) := by
  show ("-" ++ Nat.repr (n + 1)).toList = _
  rw [String.toList_append, toList_repr]
  rfl

theorem head_toDigits (n : Nat) : ∃ c cs, Nat.toDigits 10 n = c :: cs ∧ c.isDigit = true := by
  obtain ⟨c, cs, shown⟩ := List.exists_cons_of_ne_nil (Nat.toDigits_ne_nil (b := 10) (n := n))
  exact ⟨c, cs, shown, isDigit_of_mem_toDigits (by rw [shown]; simp)⟩

/-- A number has no zero in front but the one that it is. -/
theorem toDigits_head {n : Nat} (nonzero : n ≠ 0) :
    ∃ c cs, Nat.toDigits 10 n = c :: cs ∧ c ≠ '0' := by
  induction n using Nat.strongRecOn with
  | ind n ih =>
    rw [Nat.toDigits_eq_if (by decide)]
    split
    · next small =>
      refine ⟨n.digitChar, [], rfl, fun zero => nonzero ?_⟩
      rw [← Nat.toNat_digitChar_sub_48_of_lt_ten small, zero]
      rfl
    · next large =>
      obtain ⟨c, cs, shown, head⟩ := ih (n / 10) (by omega) (by omega)
      exact ⟨c, cs ++ [(n % 10).digitChar], by rw [shown, List.cons_append], head⟩

/-- No digit of any base is a colon. -/
theorem colon_not_mem_toDigits {base : Nat} (large : 1 < base) (n : Nat) :
    ':' ∉ Nat.toDigits base n := by
  have digit (n : Nat) : ':' ≠ n.digitChar := fun eq => Nat.digitChar_ne ':' (by decide) eq.symm
  induction n using Nat.strongRecOn with
  | ind n ih =>
    rw [Nat.toDigits_eq_if large]
    split
    · exact fun member => digit n (List.mem_singleton.1 member)
    · next more =>
      have smaller : n / base < n := Nat.div_lt_self (by omega) large
      rw [List.mem_append, List.mem_singleton, not_or]
      exact ⟨ih _ smaller, digit _⟩

theorem withSign_natAbs (n : Int) : withSign (decide (n < 0)) n.natAbs = n := by
  unfold withSign
  split
  · next h => have := of_decide_eq_true h; omega
  · next h => have : ¬ n < 0 := fun lt => h (decide_eq_true lt); omega

/-! ### Padding -/

theorem padded_toList (base width n : Nat) :
    (padded base width n).toList =
      List.replicate (width - (Nat.toDigits base n).length) '0' ++ Nat.toDigits base n := by
  simp [padded]

theorem isDigit_of_mem_padded {width n : Nat} {c : Char} (member : c ∈ (padded 10 width n).toList) :
    c.isDigit = true := by
  rw [padded_toList, List.mem_append] at member
  rcases member with zero | digit
  · rw [List.eq_of_mem_replicate zero]
    rfl
  · exact isDigit_of_mem_toDigits digit

theorem ofDigits_padded (width n : Nat) : ofDigits (valuesOf (padded 10 width n).toList) = n := by
  rw [padded_toList, ofDigits_zeros_append, ofDigits_toDigits]

theorem padded_ne_nil (base width n : Nat) : (padded base width n).toList ≠ [] := by
  rw [padded_toList]
  exact List.append_ne_nil_of_right_ne_nil _ Nat.toDigits_ne_nil

/-- A padded number ends where no digit follows. -/
theorem padded_append_inj {width m n : Nat} {cs ds : List Char} (stop : NoDigit cs)
    (stop' : NoDigit ds)
    (same : (padded 10 width m).toList ++ cs = (padded 10 width n).toList ++ ds) :
    m = n ∧ cs = ds := by
  have all (k : Nat) (c : Char) : c ∈ (padded 10 width k).toList → c.isDigit = true :=
    isDigit_of_mem_padded
  have read := readDigits_append (all m) stop
  rw [same, readDigits_append (all n) stop', Prod.mk.injEq] at read
  refine ⟨?_, read.2.symm⟩
  rw [← ofDigits_padded width m, ← ofDigits_padded width n, read.1]

/-- The four hexadecimal digits of a code unit. -/
theorem padded_sixteen_four {n : Nat} (small : n < 65536) :
    (padded 16 4 n).toList = [(n / 4096).digitChar, (n / 256 % 16).digitChar,
      (n / 16 % 16).digitChar, (n % 16).digitChar] := by
  rw [padded_toList]
  by_cases one : n < 16
  · rw [Nat.toDigits_of_lt_base one]
    simp [Nat.div_eq_of_lt, Nat.mod_eq_of_lt, one, show n < 256 by omega,
      show n < 4096 by omega, List.replicate]
  rw [Nat.toDigits_of_base_le (by decide) (by omega)]
  by_cases two : n / 16 < 16
  · rw [Nat.toDigits_of_lt_base two]
    simp [Nat.div_eq_of_lt, Nat.mod_eq_of_lt, two, show n < 256 by omega,
      show n < 4096 by omega, List.replicate]
  rw [Nat.toDigits_of_base_le (by decide) (by omega), Nat.div_div_eq_div_mul]
  by_cases three : n / 256 < 16
  · rw [Nat.toDigits_of_lt_base three]
    simp [Nat.div_eq_of_lt, Nat.mod_eq_of_lt, three, show n < 4096 by omega]
  rw [Nat.toDigits_of_base_le (by decide) (by omega), Nat.div_div_eq_div_mul,
    Nat.toDigits_of_lt_base (by omega)]
  simp

end Text
end Eligibility
