/-
# Calendar texts tell their values

The ISO text of a date, a clock time, an offset or a moment belongs to no other one.  A date and a
clock time are followed by more in the text of a moment, so their lemmas allow for characters
behind both texts; these begin with no character that the text could go on with.
-/

import Eligibility.Calendar.Moment
import Eligibility.Proofs.Text.Digits

namespace Eligibility

open Text (NoDigit noDigit_cons)

/-! ### Equality by parts -/

theorem Date.eq_of_parts {d e : Date} (year : d.year = e.year) (month : d.month = e.month)
    (day : d.day = e.day) : d = e := by
  cases d
  cases e
  cases year
  cases month
  cases day
  rfl

theorem Clock.eq_of_parts {c d : Clock} (hour : c.hour = d.hour) (minute : c.minute = d.minute)
    (second : c.second = d.second) (micro : c.micro = d.micro) : c = d := by
  cases c
  cases d
  cases hour
  cases minute
  cases second
  cases micro
  rfl

theorem Offset.eq_of_micros {o p : Offset} (same : o.micros = p.micros) : o = p := by
  cases o
  cases p
  cases same
  rfl

/-! ### Dates and clock times -/

theorem Date.toList_isoText (d : Date) :
    d.isoText.toList = (Text.padded 10 4 d.year).toList ++
      '-' :: ((Text.padded 10 2 d.month).toList ++ '-' :: (Text.padded 10 2 d.day).toList) := by
  simp [isoText]

theorem Date.isoText_append_inj {d e : Date} {cs ds : List Char} (stop : NoDigit cs)
    (stop' : NoDigit ds) (same : d.isoText.toList ++ cs = e.isoText.toList ++ ds) :
    d = e ∧ cs = ds := by
  have hyphen (rest : List Char) : NoDigit ('-' :: rest) := noDigit_cons rfl
  simp only [toList_isoText, List.append_assoc, List.cons_append] at same
  obtain ⟨year, behind⟩ := Text.padded_append_inj (hyphen _) (hyphen _) same
  obtain ⟨month, later⟩ := Text.padded_append_inj (hyphen _) (hyphen _) (List.cons.inj behind).2
  obtain ⟨day, last⟩ := Text.padded_append_inj stop stop' (List.cons.inj later).2
  exact ⟨Date.eq_of_parts year month day, last⟩

/-- Nothing follows, or an offset: a clock time ends there. -/
def EndsClock (cs : List Char) : Prop := ∀ c ∈ cs.head?, c = '+' ∨ c = '-'

theorem EndsClock.noDigit {cs : List Char} (stop : EndsClock cs) : NoDigit cs := by
  intro c first
  obtain rfl | rfl := stop c first
  · rfl
  · rfl

/-- The fraction of a second, when there is one. -/
def microText (n : Nat) : List Char := if n = 0 then [] else '.' :: (Text.padded 10 6 n).toList

theorem microText_append_inj {m n : Nat} {cs ds : List Char} (stop : EndsClock cs)
    (stop' : EndsClock ds) (same : microText m ++ cs = microText n ++ ds) : m = n ∧ cs = ds := by
  have point {rest : List Char} (stop : EndsClock ('.' :: rest)) : False := by
    simpa using stop '.' rfl
  rw [microText, microText] at same
  split at same
  · next zero =>
    split at same
    · next zero' => exact ⟨zero.trans zero'.symm, same⟩
    · rw [List.nil_append] at same
      rw [same] at stop
      exact (point stop).elim
  · split at same
    · rw [List.nil_append] at same
      rw [← same] at stop'
      exact (point stop').elim
    · rw [List.cons_append, List.cons_append] at same
      exact Text.padded_append_inj stop.noDigit stop'.noDigit (List.cons.inj same).2

theorem noDigit_microText {n : Nat} {cs : List Char} (stop : EndsClock cs) :
    NoDigit (microText n ++ cs) := by
  rw [microText]
  split
  · exact stop.noDigit
  · exact noDigit_cons rfl

theorem Clock.toList_isoText (c : Clock) :
    c.isoText.toList = (Text.padded 10 2 c.hour).toList ++
      ':' :: ((Text.padded 10 2 c.minute).toList ++
        ':' :: ((Text.padded 10 2 c.second).toList ++ microText c.micro)) := by
  rw [isoText, microText]
  split
  · simp
  · simp

theorem Clock.isoText_append_inj {c d : Clock} {cs ds : List Char} (stop : EndsClock cs)
    (stop' : EndsClock ds) (same : c.isoText.toList ++ cs = d.isoText.toList ++ ds) :
    c = d ∧ cs = ds := by
  have colon (rest : List Char) : NoDigit (':' :: rest) := noDigit_cons rfl
  simp only [toList_isoText, List.append_assoc, List.cons_append] at same
  obtain ⟨hour, behind⟩ := Text.padded_append_inj (colon _) (colon _) same
  obtain ⟨minute, later⟩ := Text.padded_append_inj (colon _) (colon _) (List.cons.inj behind).2
  obtain ⟨second, fraction⟩ := Text.padded_append_inj (noDigit_microText stop)
    (noDigit_microText stop') (List.cons.inj later).2
  obtain ⟨micro, last⟩ := microText_append_inj stop stop' fraction
  exact ⟨Clock.eq_of_parts hour minute second micro, last⟩

/-! ### Offsets and moments -/

theorem Clock.micros_ofMicros {n : Nat} (inDay : n < 86400000000) : (ofMicros n).micros = n := by
  simp only [ofMicros, micros]
  omega

/-- The seconds of an offset and their fraction, when they are not zero. -/
def Offset.secondsText (c : Clock) : List Char :=
  if c.second = 0 && c.micro = 0 then []
  else ':' :: ((Text.padded 10 2 c.second).toList ++ microText c.micro)

theorem Offset.secondsText_inj {c d : Clock} (same : secondsText c = secondsText d) :
    c.second = d.second ∧ c.micro = d.micro := by
  have ends : EndsClock [] := nofun
  rw [secondsText, secondsText] at same
  split at same
  · next zero =>
    split at same
    · next zero' =>
      simp only [Bool.and_eq_true, decide_eq_true_eq] at zero zero'
      exact ⟨zero.1.trans zero'.1.symm, zero.2.trans zero'.2.symm⟩
    · cases same
  · split at same
    · cases same
    · rw [← List.append_nil (microText _), ← List.append_nil (microText d.micro)] at same
      obtain ⟨second, fraction⟩ := Text.padded_append_inj (noDigit_microText ends)
        (noDigit_microText ends) (List.cons.inj same).2
      exact ⟨second, (microText_append_inj ends ends fraction).1⟩

theorem Offset.noDigit_secondsText (c : Clock) : NoDigit (secondsText c) := by
  rw [secondsText]
  split
  · nofun
  · exact noDigit_cons rfl

theorem Offset.toList_isoText (o : Offset) :
    o.isoText.toList = (if o.micros < 0 then '-' else '+') ::
      ((Text.padded 10 2 (Clock.ofMicros o.micros.natAbs).hour).toList ++ ':' ::
        ((Text.padded 10 2 (Clock.ofMicros o.micros.natAbs).minute).toList ++
          secondsText (Clock.ofMicros o.micros.natAbs))) := by
  have seconds (c : Clock) : secondsText c =
      (if c.second = 0 && c.micro = 0 then "" else ":" ++ Text.padded 10 2 c.second).toList ++
        (if c.micro = 0 then "" else "." ++ Text.padded 10 6 c.micro).toList := by
    rw [secondsText, microText]
    split
    · next zero =>
      simp only [Bool.and_eq_true, decide_eq_true_eq] at zero
      rw [if_pos zero.2]
      rfl
    · split
      · simp
      · simp
  rw [isoText, seconds]
  split
  · simp
  · simp

theorem Offset.isoText_inj {o p : Offset} (same : o.isoText = p.isoText) : o = p := by
  have colon (rest : List Char) : NoDigit (':' :: rest) := noDigit_cons rfl
  have texts := congrArg String.toList same
  rw [toList_isoText, toList_isoText] at texts
  obtain ⟨sign, behind⟩ := List.cons.inj texts
  obtain ⟨hour, later⟩ := Text.padded_append_inj (colon _) (colon _) behind
  obtain ⟨minute, last⟩ := Text.padded_append_inj (noDigit_secondsText _)
    (noDigit_secondsText _) (List.cons.inj later).2
  obtain ⟨second, micro⟩ := secondsText_inj last
  have clocks : (Clock.ofMicros o.micros.natAbs).micros =
      (Clock.ofMicros p.micros.natAbs).micros := by
    rw [Clock.micros, Clock.micros, hour, minute, second, micro]
  have bounds := o.valid
  have bounds' := p.valid
  rw [dayMicros] at bounds bounds'
  rw [Clock.micros_ofMicros (by omega), Clock.micros_ofMicros (by omega)] at clocks
  have signs : o.micros < 0 ↔ p.micros < 0 := by
    split at sign
    · split at sign
      · simp [*]
      · cases sign
    · split at sign
      · cases sign
      · simp [*]
  exact eq_of_micros (by omega)

theorem endsClock_offsetText (o : Option Offset) : EndsClock (offsetText o).toList := by
  cases o with
  | none => nofun
  | some p =>
    intro c first
    rw [offsetText, Option.map_some, Option.getD_some, Offset.toList_isoText] at first
    obtain rfl := Option.some.inj first
    split
    · exact .inr rfl
    · exact .inl rfl

theorem offsetText_inj {o p : Option Offset} (same : offsetText o = offsetText p) : o = p := by
  have empty {q : Offset} : q.isoText ≠ "" := by
    intro none
    have := congrArg String.toList none
    rw [Offset.toList_isoText] at this
    cases this
  cases o with
  | none =>
    cases p with
    | none => rfl
    | some p => exact (empty same.symm).elim
  | some o =>
    cases p with
    | none => exact (empty same).elim
    | some p => rw [Offset.isoText_inj same]

/-- A clock time and its offset are told by their text. -/
theorem clockText_inj {c d : Clock} {o p : Option Offset}
    (same : c.isoText ++ offsetText o = d.isoText ++ offsetText p) : c = d ∧ o = p := by
  have texts := congrArg String.toList same
  rw [String.toList_append, String.toList_append] at texts
  obtain ⟨clock, rest⟩ := Clock.isoText_append_inj (endsClock_offsetText o)
    (endsClock_offsetText p) texts
  exact ⟨clock, offsetText_inj (String.toList_inj.1 rest)⟩

theorem Date.isoText_inj {d e : Date} (same : d.isoText = e.isoText) : d = e := by
  have stop : NoDigit [] := nofun
  exact (isoText_append_inj stop stop (by rw [same])).1

theorem Moment.toList_isoText (m : Moment) :
    m.isoText.toList =
      m.date.isoText.toList ++ 'T' :: (m.clock.isoText ++ offsetText m.offset).toList := by
  simp [isoText, textWith]

theorem Moment.isoText_inj {m n : Moment} (same : m.isoText = n.isoText) : m = n := by
  have letter (rest : List Char) : NoDigit ('T' :: rest) := noDigit_cons rfl
  have texts := congrArg String.toList same
  rw [toList_isoText, toList_isoText] at texts
  obtain ⟨date, rest⟩ := Date.isoText_append_inj (letter _) (letter _) texts
  obtain ⟨clock, offset⟩ := clockText_inj (String.toList_inj.1 (List.cons.inj rest).2)
  obtain ⟨d, c, o⟩ := m
  obtain ⟨e, f, p⟩ := n
  simp only at date clock offset
  rw [date, clock, offset]

end Eligibility
