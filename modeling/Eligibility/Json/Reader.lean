/-
# Reading JSON

The strict grammar, with three words for doubles that are no numbers.  Space may stand between
the parts.  A number without a fraction and an exponent is whole, of any size.  Nesting is
limited.
-/

import Eligibility.Json.Basic
import Eligibility.Text.Numeral

namespace Eligibility
namespace Json

/-- White space of JSON. -/
def isSpace (c : Char) : Bool := c = ' ' || c = '\t' || c = '\n' || c = '\r'

/-- The value of a hexadecimal digit. -/
def hex? (c : Char) : Option Nat :=
  if c.isDigit then some (c.toNat - 48)
  else if 'a' ≤ c && c ≤ 'f' then some (c.toNat - 87)
  else if 'A' ≤ c && c ≤ 'F' then some (c.toNat - 55)
  else none

/-- The code unit that four hexadecimal digits write. -/
def unit? (a b c d : Char) : Option Nat := do
  return (((← hex? a) * 16 + (← hex? b)) * 16 + (← hex? c)) * 16 + (← hex? d)

/-- The character that a letter stands for behind a backslash. -/
def unescape? : Char → Option Char
  | '"' => some '"'
  | '\\' => some '\\'
  | '/' => some '/'
  | 'b' => some '\x08'
  | 'f' => some '\x0c'
  | 'n' => some '\n'
  | 'r' => some '\r'
  | 't' => some '\t'
  | _ => none

/-- Put a character in front of a text that is being read. -/
def prepend (c : Char) (read : Option (List Char × List Char)) : Option (List Char × List Char) :=
  read.map fun (chars, rest) => (c :: chars, rest)

/-- The text behind an opening quote, up to and with the closing one. A character past the basic
plane may be written by two code units, and no other use of such units is allowed. -/
def readText : List Char → Option (List Char × List Char)
  | [] => none
  | '"' :: rest => some ([], rest)
  | '\\' :: 'u' :: a :: b :: c :: d :: '\\' :: 'u' :: e :: f :: g :: h :: rest =>
    match unit? a b c d with
    | none => none
    | some high =>
      if 0xd800 ≤ high && high < 0xdc00 then
        match unit? e f g h with
        | none => none
        | some low =>
          if 0xdc00 ≤ low && low < 0xe000 then
            prepend (Char.ofNat (0x10000 + (high - 0xd800) * 0x400 + (low - 0xdc00)))
              (readText rest)
          else none
      else if 0xdc00 ≤ high && high < 0xe000 then none
      else prepend (Char.ofNat high) (readText ('\\' :: 'u' :: e :: f :: g :: h :: rest))
  | '\\' :: 'u' :: a :: b :: c :: d :: rest =>
    match unit? a b c d with
    | none => none
    | some code =>
      if 0xd800 ≤ code && code < 0xe000 then none
      else prepend (Char.ofNat code) (readText rest)
  | '\\' :: c :: rest =>
    match unescape? c with
    | none => none
    | some c => prepend c (readText rest)
  | c :: rest => if c = '\\' || c.toNat < 32 then none else prepend c (readText rest)

/-- The digits in front of a text, none of them a leading zero. -/
def readWhole? (cs : List Char) : Option (List Nat × List Char) :=
  match Text.readDigits cs with
  | ([], _) => none
  | (0 :: _ :: _, _) => none
  | found => some found

/-- The fraction in front, when there is one; it has at least one digit. -/
def readFraction? : List Char → Option (Option (List Nat) × List Char)
  | '.' :: rest =>
    match Text.readDigits rest with
    | ([], _) => none
    | (digits, rest) => some (some digits, rest)
  | cs => some (none, cs)

/-- The exponent in front, when there is one; it has at least one digit. -/
def readExponent? : List Char → Option (Option Int × List Char)
  | [] => some (none, [])
  | c :: rest =>
    if c = 'e' || c = 'E' then
      let (negative, body) := Text.readSign rest
      match Text.readDigits body with
      | ([], _) => none
      | (digits, rest) => some (some (Text.withSign negative (Text.ofDigits digits)), rest)
    else some (none, c :: rest)

/-- The number in front of a text, after its sign. -/
def readNumber? (negative : Bool) (cs : List Char) : Option (Json × List Char) := do
  let (whole, rest) ← readWhole? cs
  let (fraction, rest) ← readFraction? rest
  let (exponent, rest) ← readExponent? rest
  match fraction, exponent with
  | none, none => return (int (Text.withSign negative (Text.ofDigits whole)), rest)
  | _, _ =>
    let digits := fraction.getD []
    return (double (.ofDecimal negative (Text.ofDigits (whole ++ digits))
      (exponent.getD 0 - digits.length)), rest)

/-- The word or number in front of a text. -/
def readAtom? (cs : List Char) : Option (Json × List Char) :=
  match cs with
  | 'n' :: 'u' :: 'l' :: 'l' :: rest => some (null, rest)
  | 't' :: 'r' :: 'u' :: 'e' :: rest => some (bool true, rest)
  | 'f' :: 'a' :: 'l' :: 's' :: 'e' :: rest => some (bool false, rest)
  | 'N' :: 'a' :: 'N' :: rest => some (double .nan, rest)
  | 'I' :: 'n' :: 'f' :: 'i' :: 'n' :: 'i' :: 't' :: 'y' :: rest =>
    some (double (.infinite false), rest)
  | '-' :: 'I' :: 'n' :: 'f' :: 'i' :: 'n' :: 'i' :: 't' :: 'y' :: rest =>
    some (double (.infinite true), rest)
  | '-' :: rest => readNumber? true rest
  | _ => readNumber? false cs

/-- A text without leading space. -/
def skipSpace (cs : List Char) : List Char := cs.dropWhile isSpace

mutual

/-- The tree in front of a text that has no leading space. `fuel` bounds the calls, `depth` the
nesting. -/
def readTree : (fuel depth : Nat) → List Char → Option (Json × List Char)
  | 0, _, _ => none
  | fuel + 1, depth, cs =>
    match cs with
    | '"' :: rest => (readText rest).map fun (s, rest) => (text (String.ofList s), rest)
    | '[' :: rest =>
      match depth with
      | 0 => none
      | depth + 1 =>
        match skipSpace rest with
        | ']' :: rest => some (array [], rest)
        | rest => (readItems fuel depth rest).map fun (items, rest) => (array items, rest)
    | '\x7b' :: rest =>
      match depth with
      | 0 => none
      | depth + 1 =>
        match skipSpace rest with
        | '\x7d' :: rest => some (object [], rest)
        | rest => (readMembers fuel depth rest).map fun (members, rest) => (object members, rest)
    | cs => readAtom? cs

/-- Items up to and with the closing bracket. -/
def readItems : (fuel depth : Nat) → List Char → Option (List Json × List Char)
  | 0, _, _ => none
  | fuel + 1, depth, cs => do
    let (item, rest) ← readTree fuel depth cs
    match skipSpace rest with
    | ']' :: rest => return ([item], rest)
    | ',' :: rest =>
      let (items, rest) ← readItems fuel depth (skipSpace rest)
      return (item :: items, rest)
    | _ => none

/-- Members up to and with the closing brace. -/
def readMembers : (fuel depth : Nat) → List Char → Option (List (String × Json) × List Char)
  | 0, _, _ => none
  | fuel + 1, depth, cs => do
    let '"' :: rest := cs | none
    let (key, rest) ← readText rest
    let ':' :: rest := skipSpace rest | none
    let (value, rest) ← readTree fuel depth (skipSpace rest)
    match skipSpace rest with
    | '\x7d' :: rest => return ([(String.ofList key, value)], rest)
    | ',' :: rest =>
      let (members, rest) ← readMembers fuel depth (skipSpace rest)
      return ((String.ofList key, value) :: members, rest)
    | _ => none

end

/-- How deeply trees may be nested. -/
def nestingLimit : Nat := 200

/-- The tree that a text writes, with nesting up to a limit. -/
def ofTextWithin? (limit : Nat) (s : String) : Option Json := do
  let (tree, rest) ← readTree (s.length + 1) limit (skipSpace s.toList)
  if (skipSpace rest).isEmpty then return tree else none

/-- The tree that a text writes. -/
def ofText? (s : String) : Option Json := ofTextWithin? nestingLimit s

end Json
end Eligibility
