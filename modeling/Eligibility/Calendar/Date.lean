/-
# Dates of the proleptic Gregorian calendar

Years run from 1 to 9999.  A date carries the proof that its month and day exist, so every
`Date` is a day of the calendar.  Days are counted from the first of January of year 1, which
has the ordinal 1; `ofOrdinal?` finds the date of an ordinal by its cycle of 400 years, then
the century, the cycle of four years and the year, and last by walking the months.
-/

import Eligibility.Text.Digit

namespace Eligibility

/-- Whether February of a year has 29 days. -/
def isLeapYear (year : Nat) : Bool := year % 4 == 0 && (year % 100 != 0 || year % 400 == 0)

/-- The days of the twelve months of a year. -/
def monthLengths (year : Nat) : List Nat :=
  [31, if isLeapYear year then 29 else 28, 31, 30, 31, 30, 31, 31, 30, 31, 30, 31]

/-- The days of a month, counted from 1; a month that does not exist has none. -/
def daysInMonth (year month : Nat) : Nat :=
  if month = 0 then 0 else ((monthLengths year)[month - 1]?).getD 0

/-- A day of the calendar. -/
structure Date where
  year : Nat
  month : Nat
  day : Nat
  valid : (1 ≤ year ∧ year ≤ 9999) ∧ 1 ≤ day ∧ day ≤ daysInMonth year month
  deriving DecidableEq

namespace Date

/-- The date with these parts, when it exists. -/
def of? (year month day : Nat) : Option Date :=
  if h : (1 ≤ year ∧ year ≤ 9999) ∧ 1 ≤ day ∧ day ≤ daysInMonth year month then
    some ⟨year, month, day, h⟩
  else none

/-- The days before a year. -/
def daysBeforeYear (year : Nat) : Nat :=
  let past := year - 1
  past * 365 + past / 4 - past / 100 + past / 400

/-- The days of a year before a month. -/
def daysBeforeMonth (year month : Nat) : Nat :=
  ((monthLengths year).take (month - 1)).foldl (· + ·) 0

/-- The number of a date, the first of January of year 1 having number 1. -/
def ordinal (d : Date) : Nat := daysBeforeYear d.year + daysBeforeMonth d.year d.month + d.day

/-- Month and day of a day of the year, counted from zero, by walking the month lengths. -/
def monthOf : (lengths : List Nat) → (month day : Nat) → Nat × Nat
  | [], month, day => (month, day + 1)
  | length :: rest, month, day =>
    if day < length then (month, day + 1) else monthOf rest (month + 1) (day - length)

/-- The date with a number, when it is in the calendar. -/
def ofOrdinal? (n : Int) : Option Date :=
  if n < 1 then none
  else
    let days := n.toNat - 1
    let cycles := days / 146097
    let inCycle := days % 146097
    let centuries := min (inCycle / 36524) 3
    let inCentury := inCycle - centuries * 36524
    let fours := inCentury / 1461
    let inFour := inCentury % 1461
    let years := min (inFour / 365) 3
    let year := cycles * 400 + centuries * 100 + fours * 4 + years + 1
    let (month, day) := monthOf (monthLengths year) 1 (inFour - years * 365)
    of? year month day

/-- The day of the week of an ordinal, Monday being zero. -/
def weekday (n : Nat) : Nat := (n + 6) % 7

/-- The Monday that starts the first week of a year: the week of its first Thursday. -/
def firstMonday (year : Nat) : Int :=
  let newYear := daysBeforeYear year + 1
  let start : Int := newYear - weekday newYear
  if weekday newYear > 3 then start + 7 else start

/-- Whether a year has 53 weeks: it starts on a Thursday, or on a Wednesday when it is leap. -/
def hasLongWeeks (year : Nat) : Bool :=
  let first := weekday (daysBeforeYear year + 1)
  first == 3 || (first == 2 && isLeapYear year)

/-- The date of a day of a numbered week. -/
def ofWeek? (year week day : Nat) : Option Date :=
  if year < 1 || year > 9999 then none
  else if week < 1 || week > 53 || (week == 53 && !hasLongWeeks year) then none
  else if day < 1 || day > 7 then none
  else ofOrdinal? (firstMonday year + ((week - 1) * 7 + (day - 1) : Nat))

/-- Year, month and day with hyphens, in four, two and two digits. -/
def isoText (d : Date) : String :=
  Text.padded 10 4 d.year ++ "-" ++ Text.padded 10 2 d.month ++ "-" ++ Text.padded 10 2 d.day

end Date
end Eligibility
