/-
# Moments

A clock time to the microsecond, an offset from universal time of less than a day, and a moment:
a date, a clock time and perhaps an offset.  An instant is a moment whose offset is known; two
instants are compared by their position, the microseconds since the calendar began in universal
time, whatever their offsets.

An offset is a fixed distance.  Zones, whose offset depends on the date, are left out, and so is
the mark that tells the two passes of a repeated hour apart.
-/

import Eligibility.Calendar.Date
import Eligibility.Double.Basic

namespace Eligibility

/-- A time of day. -/
structure Clock where
  hour : Nat
  minute : Nat
  second : Nat
  micro : Nat
  valid : hour < 24 ∧ minute < 60 ∧ second < 60 ∧ micro < 1000000
  deriving DecidableEq

/-- The microseconds of a day. -/
def dayMicros : Int := 86400000000

/-- A distance from universal time, in microseconds, under a day either way. -/
structure Offset where
  micros : Int
  valid : -dayMicros < micros ∧ micros < dayMicros
  deriving DecidableEq

/-- A date and a time of day, with or without an offset. -/
structure Moment where
  date : Date
  clock : Clock
  offset : Option Offset
  deriving DecidableEq

/-- A moment with a known offset. -/
structure Instant where
  date : Date
  clock : Clock
  offset : Offset
  deriving DecidableEq

namespace Clock

/-- The clock time with these parts, when it exists. -/
def of? (hour minute second micro : Nat) : Option Clock :=
  if h : hour < 24 ∧ minute < 60 ∧ second < 60 ∧ micro < 1000000 then
    some ⟨hour, minute, second, micro, h⟩
  else none

/-- The start of a day. -/
def midnight : Clock := ⟨0, 0, 0, 0, by decide⟩

/-- The microseconds since the start of the day. -/
def micros (c : Clock) : Nat := ((c.hour * 60 + c.minute) * 60 + c.second) * 1000000 + c.micro

/-- The clock time that many microseconds into a day. -/
def ofMicros (n : Nat) : Clock :=
  let inDay := n % 86400000000
  let seconds := inDay / 1000000
  ⟨seconds / 3600, seconds / 60 % 60, seconds % 60, inDay % 1000000, by omega⟩

/-- Hours, minutes and seconds in two digits each; the fraction, in six, when there is one. -/
def isoText (c : Clock) : String :=
  Text.padded 10 2 c.hour ++ ":" ++ Text.padded 10 2 c.minute ++ ":" ++ Text.padded 10 2 c.second ++
    (if c.micro = 0 then "" else "." ++ Text.padded 10 6 c.micro)

end Clock

namespace Offset

/-- The offset of that many microseconds, when it is under a day. -/
def of? (micros : Int) : Option Offset :=
  if h : -dayMicros < micros ∧ micros < dayMicros then some ⟨micros, h⟩ else none

/-- Universal time. -/
def zero : Offset := ⟨0, by decide⟩

/-- Sign, hours and minutes; seconds and their fraction when they are not zero. -/
def isoText (o : Offset) : String :=
  let c := Clock.ofMicros o.micros.natAbs
  (if o.micros < 0 then "-" else "+") ++ Text.padded 10 2 c.hour ++ ":" ++
    Text.padded 10 2 c.minute ++
    (if c.second = 0 && c.micro = 0 then "" else ":" ++ Text.padded 10 2 c.second) ++
    (if c.micro = 0 then "" else "." ++ Text.padded 10 6 c.micro)

end Offset

/-- The offset as a text; nothing when it is unknown. -/
def offsetText (o : Option Offset) : String := (o.map Offset.isoText).getD ""

namespace Moment

/-- Date and clock time around a separator, and the offset. -/
def textWith (separator : String) (m : Moment) : String :=
  m.date.isoText ++ separator ++ m.clock.isoText ++ offsetText m.offset

/-- Date and clock time joined by a `T`. -/
def isoText (m : Moment) : String := m.textWith "T"

/-- The microseconds since the calendar began, read off the date and the clock alone. -/
def localMicros (m : Moment) : Int := m.date.ordinal * dayMicros + m.clock.micros

/-- The instant of a moment; without an offset it is in universal time. -/
def toInstant (m : Moment) : Instant := ⟨m.date, m.clock, m.offset.getD Offset.zero⟩

/-- The moment that starts a day. -/
def ofDate (d : Date) : Moment := ⟨d, Clock.midnight, none⟩

end Moment

namespace Instant

/-- The instant as a moment. -/
def toMoment (i : Instant) : Moment := ⟨i.date, i.clock, some i.offset⟩

/-- The microseconds since the calendar began, in universal time. -/
def position (i : Instant) : Int := i.date.ordinal * dayMicros + i.clock.micros - i.offset.micros

/-- Date, clock time and offset. -/
def isoText (i : Instant) : String := i.toMoment.isoText

/-- The ordinal of the first of January 1970. -/
def epochDay : Int := 719163

/-- The instant in universal time that many microseconds after the start of 1970, when it is in
the calendar. -/
def ofEpochMicros? (micros : Int) : Option Instant :=
  (Date.ofOrdinal? (epochDay + micros.fdiv dayMicros)).map fun date =>
    ⟨date, Clock.ofMicros (micros.fmod dayMicros).toNat, Offset.zero⟩

/-- The instant that many seconds after the start of 1970. The whole seconds count exactly; the
fraction is multiplied out to microseconds as a double and rounded, a half going to the even
microsecond. -/
def ofEpoch? (seconds : Double) : Option Instant := do
  let (whole, fraction) ← seconds.split
  let micros ← (fraction * Double.ofNat 1000000).toIntHalfEven
  ofEpochMicros? (whole * 1000000 + micros)

end Instant
end Eligibility
