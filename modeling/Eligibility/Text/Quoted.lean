/-
# Quoted text

How a text or a byte string is shown inside a larger text. Single quotes are preferred;
double quotes serve when the text holds a single quote and no double one. Backslash, the
quote in use, tab, line feed and carriage return are escaped by a letter, and every other
character that is not printable by its code in two, four or eight hexadecimal digits.
-/

import Eligibility.Text.Printable
import Eligibility.Text.Digit

namespace Eligibility
namespace Text

/-- The quote that a text is put in. -/
def quoteFor (cs : List Char) : Char :=
  if cs.contains '\'' && !cs.contains '"' then '"' else '\''

/-- A character as it stands between quotes. -/
def escaped (quote c : Char) : List Char :=
  if c = '\\' || c = quote then ['\\', c]
  else if c = '\t' then ['\\', 't']
  else if c = '\n' then ['\\', 'n']
  else if c = '\r' then ['\\', 'r']
  else if isPrintable c then [c]
  else if c.toNat < 0x100 then '\\' :: 'x' :: (padded 16 2 c.toNat).toList
  else if c.toNat < 0x10000 then '\\' :: 'u' :: (padded 16 4 c.toNat).toList
  else '\\' :: 'U' :: (padded 16 8 c.toNat).toList

/-- A text in quotes. -/
def quoted (s : String) : String :=
  let quote := quoteFor s.toList
  String.ofList (quote :: (s.toList.flatMap (escaped quote) ++ [quote]))

/-- A byte as it stands between quotes: ASCII as text, the rest by its code. -/
def escapedByte (quote : Char) (b : UInt8) : List Char :=
  if b < 128 then escaped quote (Char.ofNat b.toNat)
  else '\\' :: 'x' :: (padded 16 2 b.toNat).toList

/-- A byte string in quotes, marked by a leading letter. -/
def quotedBytes (bytes : List UInt8) : String :=
  let quote := quoteFor (bytes.map fun b => Char.ofNat b.toNat)
  String.ofList ('b' :: quote :: (bytes.flatMap (escapedByte quote) ++ [quote]))

end Text
end Eligibility
