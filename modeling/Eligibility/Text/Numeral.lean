/-
# Numerals in text

Reading of integers and of decimal numerals. Digits of every script are accepted, a low line
may stand between two digits, and space may surround the numeral. A decimal numeral has a
digit before or after its point and may carry an exponent; the words for infinity and for
not-a-number are numerals too, in any casing.
-/

import Eligibility.Text.Blank
import Eligibility.Text.Digit

namespace Eligibility
namespace Text

/-- A digit of any script as the ASCII digit of the same value; any other character as it is. -/
def asciiOf (c : Char) : Char :=
  match digit? c with
  | some d => Char.ofNat (48 + d)
  | none => c

/-- The characters without the low lines that separate digits; none when a low line stands
anywhere else. The flag tells whether the character before was a digit. -/
def ungroup? : Bool → List Char → Option (List Char)
  | _, [] => some []
  | after, '_' :: next :: rest =>
    if after && next.isDigit then (ungroup? true rest).map (next :: ·) else none
  | _, ['_'] => none
  | _, c :: rest => (ungroup? c.isDigit rest).map (c :: ·)

/-- The bare characters of a numeral: ASCII digits, no padding and no digit separators. -/
def bareNumeral? (s : String) : Option (List Char) :=
  ungroup? false ((trimBy isNumeralSpace s.toList).map asciiOf)

/-- A sign in front, as whether it is negative, and what follows it. -/
def readSign : List Char → Bool × List Char
  | '-' :: rest => (true, rest)
  | '+' :: rest => (false, rest)
  | cs => (false, cs)

/-- A run of ASCII digits in front, and what follows it. -/
def readDigits (cs : List Char) : List Nat × List Char :=
  ((cs.takeWhile Char.isDigit).map fun c => c.toNat - 48, cs.dropWhile Char.isDigit)

/-- The number that a negative mark and a magnitude make. -/
def withSign (negative : Bool) (n : Nat) : Int := if negative then -n else n

/-- The integer that a text writes in base ten. -/
def integer? (s : String) : Option Int := do
  let cs ← bareNumeral? s
  let (negative, body) := readSign cs
  let (digits, rest) := readDigits body
  if digits.isEmpty || !rest.isEmpty then none
  else some (withSign negative (ofDigits digits))

/-- What a decimal numeral stands for: `digits * 10 ^ exponent` with a sign, or a word. -/
inductive Numeral where
  | number (negative : Bool) (digits : Nat) (exponent : Int)
  | infinite (negative : Bool)
  | nan
  deriving DecidableEq

/-- The exponent after a mantissa; absent it is zero, and it takes at least one digit. -/
def readExponent? : List Char → Option Int
  | [] => some 0
  | c :: rest =>
    if c = 'e' || c = 'E' then
      let (negative, body) := readSign rest
      let (digits, after) := readDigits body
      if digits.isEmpty || !after.isEmpty then none
      else some (withSign negative (ofDigits digits))
    else none

/-- The fraction after a point, and what follows it. -/
def readFraction : List Char → List Nat × List Char
  | '.' :: rest => readDigits rest
  | cs => ([], cs)

/-- The numeral that bare characters write. -/
def readNumeral? (cs : List Char) : Option Numeral := do
  let (negative, body) := readSign cs
  let word := String.ofList (body.map Char.toLower)
  if word == "inf" || word == "infinity" then return .infinite negative
  if word == "nan" then return .nan
  let (whole, afterWhole) := readDigits body
  let (fraction, afterFraction) := readFraction afterWhole
  if whole.isEmpty && fraction.isEmpty then none
  let exponent ← readExponent? afterFraction
  return .number negative (ofDigits (whole ++ fraction)) (exponent - fraction.length)

/-- The numeral that a text writes. -/
def numeral? (s : String) : Option Numeral := bareNumeral? s >>= readNumeral?

end Text
end Eligibility
