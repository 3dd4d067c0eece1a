/-
# Blank characters

Two classes of white space. `isBlank` is the wide one that surrounding space is trimmed by;
`isNumeralSpace` is the narrower one that a numeral may be padded with, which leaves out the
four information separators.
-/

namespace Eligibility
namespace Text

/-- White space: the ASCII controls tab to carriage return, the information separators, and
the Unicode space and line separators. -/
def isBlank (c : Char) : Bool :=
  let n := c.toNat
  (9 ≤ n && n ≤ 13) || (28 ≤ n && n ≤ 32) || n == 0x85 || n == 0xa0 || n == 0x1680 ||
    (0x2000 ≤ n && n ≤ 0x200a) || n == 0x2028 || n == 0x2029 || n == 0x202f || n == 0x205f ||
    n == 0x3000

/-- White space that may stand around a numeral. -/
def isNumeralSpace (c : Char) : Bool := isBlank c && !(28 ≤ c.toNat && c.toNat ≤ 31)

theorem isBlank_of_isDigit {c : Char} (digit : c.isDigit = true) : isBlank c = false := by
  simp only [Char.isDigit, Bool.and_eq_true, decide_eq_true_eq] at digit
  have low : 48 ≤ c.toNat := digit.1
  have high : c.toNat ≤ 57 := digit.2
  simp only [isBlank, Bool.or_eq_false_iff, Bool.and_eq_false_iff, decide_eq_false_iff_not,
    beq_eq_false_iff_ne]
  omega

/-- A text without the characters of a class at its end. -/
def trimEndBy (p : Char → Bool) (cs : List Char) : List Char := (cs.reverse.dropWhile p).reverse

/-- A text without the characters of a class at either end. -/
def trimBy (p : Char → Bool) (cs : List Char) : List Char := trimEndBy p (cs.dropWhile p)

/-- A text without surrounding white space. -/
def trim (s : String) : String := String.ofList (trimBy isBlank s.toList)

variable {p : Char → Bool} {cs : List Char}

theorem dropWhile_of_none (solid : ∀ c ∈ cs, p c = false) : cs.dropWhile p = cs := by
  cases cs with
  | nil => rfl
  | cons c rest => exact List.dropWhile_cons_of_neg (by simp [solid c List.mem_cons_self])

theorem trimBy_of_none (solid : ∀ c ∈ cs, p c = false) : trimBy p cs = cs := by
  have solid' : ∀ c ∈ cs.reverse, p c = false := fun c member => solid c (List.mem_reverse.1 member)
  rw [trimBy, dropWhile_of_none solid, trimEndBy, dropWhile_of_none solid', List.reverse_reverse]

end Text
end Eligibility
