/-
# Reading ISO 8601 text

A moment is a date, one separator character of any kind, and a clock time with or without an
offset.  A date is a year with month and day, or a year with week and weekday, each in the
extended form (with hyphens) or the basic form (without).  A clock time gives hours, then
minutes, then seconds, two digits each and with colons throughout or nowhere, and ends in a
fraction after a point or a comma.  Digits past the sixth place of a fraction are dropped.

Three leniencies are part of the format.  A colon after the seconds may stand for the point of a
fraction; the reading of a clock time stops before an offset, so what stands between a complete
field and the offset's sign is not examined beyond that field's own punctuation; and the minutes
and seconds of an offset may run past 59.  What is not examined is one ASCII character.
-/

import Eligibility.Calendar.Moment

namespace Eligibility

/-- That many ASCII digits in front, as a number, and what follows them. -/
def readFixed : (count : Nat) → (acc : Nat) → List Char → Option (Nat × List Char)
  | 0, acc, rest => some (acc, rest)
  | count + 1, acc, c :: rest =>
    match Text.asciiDigit? c with
    | some d => readFixed count (acc * 10 + d) rest
    | none => none
  | _ + 1, _, [] => none

namespace Date

/-- The week form after its `W`, in a form with hyphens or without. -/
def readWeek? (year : Nat) (hyphens : Bool) (cs : List Char) : Option Date := do
  let (week, rest) ← readFixed 2 0 cs
  match hyphens, rest with
  | _, [] => ofWeek? year week 1
  | true, '-' :: after =>
    let (day, []) ← readFixed 1 0 after | none
    ofWeek? year week day
  | true, _ => none
  | false, after =>
    let (day, []) ← readFixed 1 0 after | none
    ofWeek? year week day

/-- The month form after the year, in a form with hyphens or without. -/
def readMonthDay? (year : Nat) (hyphens : Bool) (cs : List Char) : Option Date := do
  let (month, rest) ← readFixed 2 0 cs
  let tail ←
    match hyphens, rest with
    | true, '-' :: after => some after
    | true, _ => none
    | false, after => some after
  let (day, []) ← readFixed 2 0 tail | none
  of? year month day

/-- The date that a text writes in full. -/
def ofChars? (cs : List Char) : Option Date := do
  let (year, rest) ← readFixed 4 0 cs
  match rest with
  | '-' :: 'W' :: after => readWeek? year true after
  | '-' :: after => readMonthDay? year true after
  | 'W' :: after => readWeek? year false after
  | after => readMonthDay? year false after

/-- The date that a text writes. -/
def ofText? (s : String) : Option Date := ofChars? s.toList

end Date

/-- Hours, minutes, seconds and microseconds as they were read, not yet checked. -/
structure ClockFields where
  hour : Nat := 0
  minute : Nat := 0
  second : Nat := 0
  micro : Nat := 0

namespace ClockFields

/-- The microseconds that the fields make up. -/
def micros (f : ClockFields) : Nat := ((f.hour * 60 + f.minute) * 60 + f.second) * 1000000 + f.micro

/-- The fields with one of the first three set. -/
def set (f : ClockFields) (index value : Nat) : ClockFields :=
  match index with
  | 0 => { f with hour := value }
  | 1 => { f with minute := value }
  | _ => { f with second := value }

/-- A fraction of a second: its first six places, and whether anything but digits follows. -/
def readFraction? (f : ClockFields) (cs : List Char) : Option (ClockFields × Bool) := do
  let places := min 6 cs.length
  let (value, rest) ← readFixed places 0 cs
  let micro := value * Nat.pow 10 (6 - places)
  return ({ f with micro }, !(rest.dropWhile Char.isDigit).isEmpty)

/-- The fields from the given one on. `colons` tells whether the form has colons; the answer
says whether something was left over after the last field. -/
def readFrom? (fields : ClockFields) (colons : Bool) :
    (left : Nat) → List Char → Option (ClockFields × Bool)
  | 0, cs => readFraction? fields cs
  | left + 1, cs => do
    let (value, rest) ← readFixed 2 0 cs
    let index := 2 - left
    let fields := fields.set index value
    match rest with
    | [] => return (fields, false)
    | [c] => if c.toNat < 128 then return (fields, true) else none
    | c :: after =>
      let colons := if index = 0 then c == ':' else colons
      if colons && c == ':' then readFrom? fields colons left after
      else if c == '.' || c == ',' then readFraction? fields after
      else if colons then none
      else readFrom? fields colons left rest

/-- The fields of a clock time or an offset, and whether something was left over. -/
def read? (cs : List Char) : Option (ClockFields × Bool) := readFrom? {} false 3 cs

end ClockFields

/-- Whether a character starts an offset. -/
def startsOffset (c : Char) : Bool := c == '+' || c == '-' || c == 'Z'

/-- The offset in front of which a clock time ends. A distance of less than a second is zero. -/
def readOffset? : List Char → Option (Option Offset)
  | [] => some none
  | 'Z' :: rest => if rest.isEmpty then some (some Offset.zero) else none
  | sign :: rest => do
    let (fields, false) ← ClockFields.read? rest | none
    if fields.micros < 1000000 then return some Offset.zero
    let offset ← Offset.of? (if sign == '-' then -(fields.micros : Int) else fields.micros)
    return some offset

/-- The clock time, with its offset when it has one, that a text writes. -/
def readClock? (cs : List Char) : Option (Clock × Option Offset) := do
  let (fields, leftover) ← ClockFields.read? (cs.takeWhile (!startsOffset ·))
  let tail := cs.dropWhile (!startsOffset ·)
  if tail.isEmpty && leftover then none
  let offset ← readOffset? tail
  let clock ← Clock.of? fields.hour fields.minute fields.second fields.micro
  return (clock, offset)

/-- The clock time, with its offset, that a text writes, after a `T` or without one. -/
def Clock.ofText? (s : String) : Option (Clock × Option Offset) :=
  match s.toList with
  | 'T' :: rest => readClock? rest
  | cs => readClock? cs

namespace Moment

/-- How many characters the date at the start of a text takes, told by its punctuation. In the
basic week form an even count of digits means that the weekday is left out. -/
def dateLength (cs : List Char) : Nat :=
  if cs.length = 7 then 7
  else
    match cs[4]?, cs[5]? with
    | some '-', some 'W' =>
      if cs[8]? = some '-' then
        if (cs[10]?.map Char.isDigit).getD false then 8 else 10
      else 8
    | some '-', _ => 10
    | some 'W', _ =>
      let digits := 7 + ((cs.drop 7).takeWhile Char.isDigit).length
      if digits < 9 then digits else if digits % 2 = 0 then 7 else 8
    | _, _ => 8

/-- The moment that a text writes. -/
def ofChars? (cs : List Char) : Option Moment := do
  if cs.length < 7 then none
  let length := dateLength cs
  let date ← Date.ofChars? (cs.take length)
  match cs.drop length with
  | [] => return ofDate date
  | _ :: rest =>
    let (clock, offset) ← readClock? rest
    return ⟨date, clock, offset⟩

/-- The moment that a text writes. -/
def ofText? (s : String) : Option Moment := ofChars? s.toList

end Moment
end Eligibility
