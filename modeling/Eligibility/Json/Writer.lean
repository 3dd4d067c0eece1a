/-
# Writing JSON

Trees are written without any space.  A style says how a character of a text is escaped and how
a double is laid out: the ASCII style escapes everything outside printable ASCII by UTF-16 code
units, the plain style only what has to be escaped.
-/

import Eligibility.Double.Shortest
import Eligibility.Json.Basic

namespace Eligibility
namespace Json

/-- A code unit as a backslash, a `u` and four hexadecimal digits. -/
def unitEscape (n : Nat) : List Char := '\\' :: 'u' :: (Text.padded 16 4 n).toList

/-- The escape of a character that has a short one. -/
def shortEscape? : Char → Option (List Char)
  | '"' => some ['\\', '"']
  | '\\' => some ['\\', '\\']
  | '\n' => some ['\\', 'n']
  | '\r' => some ['\\', 'r']
  | '\t' => some ['\\', 't']
  | '\x08' => some ['\\', 'b']
  | '\x0c' => some ['\\', 'f']
  | _ => none

/-- A character in a text that is plain but for control characters, quotes and backslashes. -/
def plainEscape (c : Char) : List Char :=
  match shortEscape? c with
  | some shown => shown
  | none => if c.toNat < 32 then unitEscape c.toNat else [c]

/-- A character in a text that is ASCII throughout. -/
def asciiEscape (c : Char) : List Char :=
  match shortEscape? c with
  | some shown => shown
  | none =>
    let n := c.toNat
    if 32 ≤ n && n < 127 then [c]
    else if n < 0x10000 then unitEscape n
    else
      unitEscape (0xd800 + (n - 0x10000) / 0x400) ++ unitEscape (0xdc00 + (n - 0x10000) % 0x400)

/-- How texts and doubles are written. -/
structure Style where
  escape : Char → List Char
  layout : Double.Layout

/-- Texts in ASCII, doubles in their usual layout. -/
def Style.ascii : Style := ⟨asciiEscape, .usual⟩

/-- Texts as they are, doubles in the layout of stored results. -/
def Style.plain : Style := ⟨plainEscape, .stored⟩

namespace Style

/-- A text in quotes. -/
def writeText (style : Style) (s : String) : List Char :=
  '"' :: (s.toList.flatMap style.escape ++ ['"'])

/-- A double. Those that are no numbers are written as words, which JSON proper does not have. -/
def writeDouble (style : Style) : Double → List Char
  | .nan => "NaN".toList
  | .infinite negative => (if negative then "-Infinity" else "Infinity").toList
  | x => (x.textIn style.layout).toList

mutual

/-- The characters of a tree. -/
def write (style : Style) : Json → List Char
  | .null => "null".toList
  | .bool b => (if b then "true" else "false").toList
  | .int n => (toString n).toList
  | .double x => style.writeDouble x
  | .text s => style.writeText s
  | .array [] => ['[', ']']
  | .array (item :: rest) => '[' :: (style.write item ++ style.writeItems rest)
  | .object [] => ['\x7b', '\x7d']
  | .object ((key, value) :: rest) =>
    '\x7b' :: (style.writeText key ++ ':' :: (style.write value ++ style.writeMembers rest))

/-- The items after the first, and the closing bracket. -/
def writeItems (style : Style) : List Json → List Char
  | [] => [']']
  | item :: rest => ',' :: (style.write item ++ style.writeItems rest)

/-- The members after the first, and the closing brace. -/
def writeMembers (style : Style) : List (String × Json) → List Char
  | [] => ['\x7d']
  | (key, value) :: rest =>
    ',' :: (style.writeText key ++ ':' :: (style.write value ++ style.writeMembers rest))

end

end Style

/-- The text of a tree in ASCII. -/
def asciiText (j : Json) : String := String.ofList (Style.ascii.write j)

/-- The text of a tree. -/
def plainText (j : Json) : String := String.ofList (Style.plain.write j)

end Json
end Eligibility
