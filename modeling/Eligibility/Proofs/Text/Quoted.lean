/-
# Quoted text read back

Between quotes, a backslash begins an escape and every other character stands for itself, so the
character in front can be read off (`unescape`), and the quote that closes the text is the first
that stands for itself.  A quoted text or byte string is therefore told from every other one,
whatever stands behind the two.
-/

import Mathlib.Logic.Function.Defs
import Eligibility.Text.Quoted

namespace Eligibility
namespace Text

/-! ### Hexadecimal digits -/

/-- The value of a hexadecimal digit. -/
def hexValue (c : Char) : Nat := if c.isDigit then c.toNat - 48 else c.toNat - 87

/-- The number that a list of hexadecimal digits writes. -/
def ofHex (cs : List Char) : Nat := cs.foldl (fun n c => n * 16 + hexValue c) 0

theorem hexValue_digitChar {d : Nat} (small : d < 16) : hexValue d.digitChar = d := by
  have all : ∀ d < 16, hexValue d.digitChar = d := by decide
  exact all d small

theorem ofHex_toDigits (n : Nat) : ofHex (Nat.toDigits 16 n) = n := by
  induction n using Nat.strongRecOn with
  | ind n ih =>
    rw [Nat.toDigits_eq_if (by decide)]
    split
    · next small =>
      rw [ofHex, List.foldl_cons, List.foldl_nil, hexValue_digitChar small]
      omega
    · have front := ih (n / 16) (by omega)
      rw [ofHex] at front
      rw [ofHex, List.foldl_append, front, List.foldl_cons, List.foldl_nil,
        hexValue_digitChar (by omega)]
      omega

theorem ofHex_padded (width n : Nat) : ofHex (padded 16 width n).toList = n := by
  have zeros (count : Nat) : ofHex (List.replicate count '0') = 0 := by
    induction count with
    | zero => rfl
    | succ count ih => exact ih
  have whole := ofHex_toDigits n
  have front := zeros (width - (Nat.toDigits 16 n).length)
  rw [ofHex] at whole front
  rw [padded, String.toList_ofList, ofHex, List.foldl_append, front, whole]

theorem length_padded {base width n : Nat} (large : 1 < base) (some : 0 < width)
    (small : n < Nat.pow base width) : (padded base width n).toList.length = width := by
  have fits := (Nat.length_toDigits_le_iff large some).2 small
  rw [padded, String.toList_ofList, List.length_append, List.length_replicate]
  omega

/-! ### Escapes -/

/-- The character that a number of hexadecimal digits write, and what stands behind them. -/
def readHex (width : Nat) (cs : List Char) : Char × List Char :=
  (Char.ofNat (ofHex (cs.take width)), cs.drop width)

/-- The character behind a backslash. -/
def unescapeLetter (letter : Char) (rest : List Char) : Char × List Char :=
  if letter = 't' then ('\t', rest)
  else if letter = 'n' then ('\n', rest)
  else if letter = 'r' then ('\r', rest)
  else if letter = 'x' then readHex 2 rest
  else if letter = 'u' then readHex 4 rest
  else if letter = 'U' then readHex 8 rest
  else (letter, rest)

/-- The character in front, and what stands behind it. -/
def unescape : List Char → Char × List Char
  | c :: letter :: rest => if c = '\\' then unescapeLetter letter rest else (c, letter :: rest)
  | [c] => (c, [])
  | [] => ('\\', [])

theorem readHex_padded {width n : Nat} (some : 0 < width) (small : n < Nat.pow 16 width)
    (rest : List Char) :
    readHex width ((padded 16 width n).toList ++ rest) = (Char.ofNat n, rest) := by
  have length := length_padded (by decide) some small
  rw [readHex, List.take_left' length, List.drop_left' length, ofHex_padded]

theorem unescape_self {c : Char} (plain : c ≠ '\\') (rest : List Char) :
    unescape (c :: rest) = (c, rest) := by
  cases rest with
  | nil => rfl
  | cons letter rest => rw [unescape, if_neg plain]

/-- The quotes that a text may be put in. -/
def IsQuote (quote : Char) : Prop := quote = '\'' ∨ quote = '"'

theorem isQuote_quoteFor (cs : List Char) : IsQuote (quoteFor cs) := by
  rw [quoteFor]
  split
  · exact .inr rfl
  · exact .inl rfl

theorem unescape_escaped {quote : Char} (isQuote : IsQuote quote) (c : Char) (rest : List Char) :
    unescape (escaped quote c ++ rest) = (c, rest) := by
  have scalar : c.toNat < 0x110000 := by
    rcases c.valid with low | high
    · exact Nat.lt_trans low (by decide)
    · exact high.2
  unfold escaped
  split
  · next self =>
    show unescapeLetter c rest = _
    rw [Bool.or_eq_true, decide_eq_true_eq, decide_eq_true_eq] at self
    obtain rfl | rfl := self
    · rfl
    · obtain rfl | rfl := isQuote
      · rfl
      · rfl
  · next other =>
    rw [Bool.or_eq_true, decide_eq_true_eq, decide_eq_true_eq] at other
    split
    · next tab => rw [tab]; rfl
    · split
      · next feed => rw [feed]; rfl
      · split
        · next back => rw [back]; rfl
        · split
          · exact unescape_self (fun slash => other (.inl slash)) rest
          · split
            · next small =>
              exact (readHex_padded (by decide) small rest).trans (by rw [Char.ofNat_toNat])
            · split
              · next small =>
                exact (readHex_padded (by decide) small rest).trans (by rw [Char.ofNat_toNat])
              · have small : c.toNat < Nat.pow 16 8 := Nat.lt_trans scalar (by decide)
                exact (readHex_padded (by decide) small rest).trans (by rw [Char.ofNat_toNat])

/-- An escape does not begin with the quote. -/
theorem head_escaped {quote : Char} (isQuote : IsQuote quote) (c : Char) :
    ∃ d ds, escaped quote c = d :: ds ∧ d ≠ quote := by
  have slash : '\\' ≠ quote := by
    obtain rfl | rfl := isQuote
    · decide
    · decide
  unfold escaped
  split
  · exact ⟨_, _, rfl, slash⟩
  · next other =>
    rw [Bool.or_eq_true, decide_eq_true_eq, decide_eq_true_eq] at other
    repeat' split
    all_goals first
      | exact ⟨_, _, rfl, slash⟩
      | exact ⟨_, _, rfl, fun same => other (.inr same)⟩

theorem unescape_escapedByte {quote : Char} (isQuote : IsQuote quote) (b : UInt8)
    (rest : List Char) :
    unescape (escapedByte quote b ++ rest) = (Char.ofNat b.toNat, rest) := by
  unfold escapedByte
  split
  · exact unescape_escaped isQuote _ rest
  · exact readHex_padded (by decide) b.toNat_lt rest

theorem head_escapedByte {quote : Char} (isQuote : IsQuote quote) (b : UInt8) :
    ∃ d ds, escapedByte quote b = d :: ds ∧ d ≠ quote := by
  unfold escapedByte
  split
  · exact head_escaped isQuote _
  · refine ⟨_, _, rfl, ?_⟩
    obtain rfl | rfl := isQuote
    · decide
    · decide

/-! ### Texts -/

/-- What stands between quotes is read up to the quote, one escape after the other. -/
theorem flatMap_escapes_inj {α : Type} {quote : Char} {escape : α → List Char} {stands : α → Char}
    (reads : ∀ a rest, unescape (escape a ++ rest) = (stands a, rest))
    (heads : ∀ a, ∃ d ds, escape a = d :: ds ∧ d ≠ quote)
    (told : Function.Injective stands) {as bs : List α} {cs ds : List Char}
    (same : as.flatMap escape ++ quote :: cs = bs.flatMap escape ++ quote :: ds) :
    as = bs ∧ cs = ds := by
  induction as generalizing bs with
  | nil =>
    cases bs with
    | nil => exact ⟨rfl, (List.cons.inj same).2⟩
    | cons b bs =>
      obtain ⟨d, shown, eq, other⟩ := heads b
      rw [List.flatMap_cons, eq] at same
      exact (other (List.cons.inj same).1.symm).elim
  | cons a as ih =>
    cases bs with
    | nil =>
      obtain ⟨d, shown, eq, other⟩ := heads a
      rw [List.flatMap_cons, eq] at same
      exact (other (List.cons.inj same).1).elim
    | cons b bs =>
      simp only [List.flatMap_cons, List.append_assoc] at same
      have read := reads a (as.flatMap escape ++ quote :: cs)
      rw [same, reads b, Prod.mk.injEq] at read
      obtain ⟨rfl, behind⟩ := ih read.2.symm
      exact ⟨by rw [told read.1], behind⟩

/-- **A quoted text** is told from every other one, whatever stands behind it. -/
theorem quoted_append_inj {s t : String} {cs ds : List Char}
    (same : (quoted s).toList ++ cs = (quoted t).toList ++ ds) : s = t ∧ cs = ds := by
  simp only [quoted, String.toList_ofList, List.cons_append, List.append_assoc] at same
  obtain ⟨quotes, body⟩ := List.cons.inj same
  have isQuote := isQuote_quoteFor t.toList
  rw [quotes] at body
  have reads : ∀ c rest, unescape (escaped (quoteFor t.toList) c ++ rest) = (id c, rest) :=
    unescape_escaped isQuote
  obtain ⟨texts, behind⟩ := flatMap_escapes_inj reads (head_escaped isQuote)
    Function.injective_id body
  exact ⟨String.toList_inj.1 texts, behind⟩

theorem ofNat_byte_injective : Function.Injective fun b : UInt8 => Char.ofNat b.toNat := by
  have code (c : UInt8) : (Char.ofNat c.toNat).toNat = c.toNat := by
    have scalar : c.toNat.isValidChar := .inl (Nat.lt_trans c.toNat_lt (by decide))
    rw [Char.ofNat, dif_pos scalar]
    rfl
  intro a b same
  apply UInt8.toNat_inj.1
  rw [← code a, ← code b]
  exact congrArg Char.toNat same

/-- **A quoted byte string** is told from every other one, whatever stands behind it. -/
theorem quotedBytes_append_inj {s t : List UInt8} {cs ds : List Char}
    (same : (quotedBytes s).toList ++ cs = (quotedBytes t).toList ++ ds) : s = t ∧ cs = ds := by
  simp only [quotedBytes, String.toList_ofList, List.cons_append, List.append_assoc] at same
  obtain ⟨quotes, body⟩ := List.cons.inj (List.cons.inj same).2
  have isQuote := isQuote_quoteFor (t.map fun b => Char.ofNat b.toNat)
  rw [quotes] at body
  exact flatMap_escapes_inj (unescape_escapedByte isQuote) (head_escapedByte isQuote)
    ofNat_byte_injective body

end Text
end Eligibility
