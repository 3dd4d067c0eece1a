/-
# Values as text

Two texts of a value.  `display` is the one that comparison by text sees: a text stands for
itself, a number or a date for its usual form.  `quoted` is the one that shows a value inside
another or in a message, where texts are in quotes and dates are spelled by their parts.
-/

import Eligibility.Value.Basic
import Eligibility.Double.Shortest
import Eligibility.Text.Quoted

namespace Eligibility

/-- Texts with a comma and a space between them. -/
def commaSeparated (parts : List String) : String := ", ".intercalate parts

namespace Offset

/-- The offset spelled by days, seconds and microseconds, which are counted down from whole
days when it is behind universal time. -/
def quoted (o : Offset) : String :=
  if o.micros = 0 then "datetime.timezone.utc"
  else
    let days := o.micros.fdiv dayMicros
    let rest := o.micros.fmod dayMicros
    let seconds := rest / 1000000
    let micros := rest % 1000000
    let parts :=
      (if days = 0 then [] else ["days=" ++ toString days]) ++
      (if seconds = 0 then [] else ["seconds=" ++ toString seconds]) ++
      (if micros = 0 then [] else ["microseconds=" ++ toString micros])
    "datetime.timezone(datetime.timedelta(" ++ commaSeparated parts ++ "))"

end Offset

namespace Clock

/-- Hour and minute, then the seconds and microseconds that are needed. -/
def parts (c : Clock) : List String :=
  [toString c.hour, toString c.minute] ++
    (if c.second = 0 && c.micro = 0 then [] else [toString c.second]) ++
    (if c.micro = 0 then [] else [toString c.micro])

end Clock

namespace Value

/-- The offset as a named part, when there is one. -/
def offsetParts (offset : Option Offset) : List String :=
  match offset with
  | some o => ["tzinfo=" ++ o.quoted]
  | none => []

/-- Texts between brackets. -/
def bracketed (opening closing : String) (parts : List String) : String :=
  opening ++ commaSeparated parts ++ closing

/-- A tuple of one keeps a comma. -/
def tupleText : List String → String
  | [part] => "(" ++ part ++ ",)"
  | parts => bracketed "(" ")" parts

/-- A set's parts between braces; the empty set has a form of its own. -/
def setText (parts : List String) : String :=
  if parts.isEmpty then "set()" else bracketed "\x7b" "\x7d" parts

/-- A frozen set's parts, named. -/
def frozenSetText (parts : List String) : String :=
  if parts.isEmpty then "frozenset()" else bracketed "frozenset(\x7b" "\x7d)" parts

/-- A boolean as text. -/
def boolText (b : Bool) : String := if b then "True" else "False"

mutual

/-- The value as it is shown inside another. -/
def quoted : Value → String
  | null => "None"
  | missing => "MISSING"
  | bool b => boolText b
  | int n => toString n
  | double x => x.text
  | decimal d => "Decimal(" ++ Text.quoted d.text ++ ")"
  | text s => Text.quoted s
  | bytes data => Text.quotedBytes data
  | date d => bracketed "datetime.date(" ")" [toString d.year, toString d.month, toString d.day]
  | moment m =>
    bracketed "datetime.datetime(" ")"
      ([toString m.date.year, toString m.date.month, toString m.date.day] ++ m.clock.parts ++
        offsetParts m.offset)
  | clock c offset => bracketed "datetime.time(" ")" (c.parts ++ offsetParts offset)
  | list items => bracketed "[" "]" (quotedItems items)
  | tuple items => tupleText (quotedItems items)
  | set items => setText (quotedItems items)
  | frozenSet items => frozenSetText (quotedItems items)
  | map members => bracketed "\x7b" "\x7d" (quotedMembers members)

/-- The items as they are shown inside their collection. -/
def quotedItems : List Value → List String
  | [] => []
  | item :: rest => quoted item :: quotedItems rest

/-- The members, key and value around a colon. -/
def quotedMembers : List (Value × Value) → List String
  | [] => []
  | (key, value) :: rest => (quoted key ++ ": " ++ quoted value) :: quotedMembers rest

end

/-- The value as a text of its own. -/
def display : Value → String
  | text s => s
  | decimal d => d.text
  | date d => d.isoText
  | moment m => m.textWith " "
  | clock c offset => c.isoText ++ offsetText offset
  | v => quoted v

end Value
end Eligibility
