/-
# Calendar values spelled by their parts

The parts of a date, a clock time and an offset, between commas, make it up again: those of an
offset add up to it, and those that a clock time leaves out are zero.
-/

import Eligibility.Proofs.Calendar.IsoText
import Eligibility.Proofs.Json.Number
import Eligibility.Proofs.Text.Listed

namespace Eligibility

open Text (Told EndsItem Opens Closes listed listed_inj)

theorem Text.EndsItem.endsNumber {cs : List Char} (stop : EndsItem cs) : Json.EndsNumber cs := by
  intro c first
  obtain rfl | rfl | rfl | rfl | rfl := stop c first
  · decide
  · decide
  · decide
  · decide
  · decide

theorem told_int (m n : Int) : Told (fun n : Int => (toString n).toList) m n := by
  intro cs ds stop stop' same
  have read := Json.readAtom?_int m stop.endsNumber
  rw [same, Json.readAtom?_int n stop'.endsNumber] at read
  exact (Json.int.inj (Prod.mk.inj (Option.some.inj read)).1).symm

/-! ### Offsets -/

namespace Offset

/-- The units that an offset is spelled in. -/
inductive Measure where
  | day
  | second
  | micro

/-- What stands in front of a number of units. -/
def Measure.label : Measure → String
  | day => "days="
  | second => "seconds="
  | micro => "microseconds="

/-- The microseconds of a unit. -/
def Measure.micros : Measure → Int
  | day => dayMicros
  | second => 1000000
  | micro => 1

theorem Measure.label_append_inj {u v : Measure} {cs ds : List Char}
    (same : u.label.toList ++ cs = v.label.toList ++ ds) : u = v ∧ cs = ds := by
  cases u with
  | day =>
    cases v with
    | day => exact ⟨rfl, List.append_cancel_left same⟩
    | second => cases (List.cons.inj same).1
    | micro => cases (List.cons.inj same).1
  | second =>
    cases v with
    | second => exact ⟨rfl, List.append_cancel_left same⟩
    | day => cases (List.cons.inj same).1
    | micro => cases (List.cons.inj same).1
  | micro =>
    cases v with
    | micro => exact ⟨rfl, List.append_cancel_left same⟩
    | day => cases (List.cons.inj same).1
    | second => cases (List.cons.inj same).1

/-- A number of units. -/
structure Part where
  measure : Measure
  count : Int

namespace Part

/-- The text of a part. -/
def text (p : Part) : String := p.measure.label ++ toString p.count

/-- The microseconds of a part. -/
def micros (p : Part) : Int := p.count * p.measure.micros

theorem told (p q : Part) : Told (fun p : Part => p.text.toList) p q := by
  intro cs ds stop stop' same
  obtain ⟨u, m⟩ := p
  obtain ⟨v, n⟩ := q
  simp only [text, String.toList_append, List.append_assoc] at same
  obtain ⟨rfl, counts⟩ := Measure.label_append_inj same
  rw [told_int m n cs ds stop stop' counts]

theorem opens (p : Part) : Opens p.text.toList := by
  obtain ⟨u, n⟩ := p
  rw [text, String.toList_append]
  cases u with
  | day =>
    show Opens ("days=".toList ++ _)
    exact ⟨'d', _, rfl, by decide⟩
  | second =>
    show Opens ("seconds=".toList ++ _)
    exact ⟨'s', _, rfl, by decide⟩
  | micro =>
    show Opens ("microseconds=".toList ++ _)
    exact ⟨'m', _, rfl, by decide⟩

end Part

/-- A number of units, unless it is zero. -/
def partOf (measure : Measure) (count : Int) : List Part :=
  if count = 0 then [] else [⟨measure, count⟩]

/-- The parts that an offset is spelled in. -/
def parts (o : Offset) : List Part :=
  let rest := o.micros.fmod dayMicros
  partOf .day (o.micros.fdiv dayMicros) ++ partOf .second (rest / 1000000) ++
    partOf .micro (rest % 1000000)

theorem sum_partOf (measure : Measure) (count : Int) :
    ((partOf measure count).map Part.micros).sum = count * measure.micros := by
  rw [partOf]
  split
  · next zero => simp [zero]
  · simp [Part.micros]

/-- The parts add up to the offset. -/
theorem sum_parts (o : Offset) : (o.parts.map Part.micros).sum = o.micros := by
  have days := Int.mul_fdiv_add_fmod o.micros dayMicros
  simp only [parts, List.map_append, List.sum_append, sum_partOf, Measure.micros]
  rw [dayMicros] at days ⊢
  omega

theorem map_text_partOf (measure : Measure) (count : Int) :
    (partOf measure count).map Part.text =
      if count = 0 then [] else [measure.label ++ toString count] := by
  rw [partOf]
  split
  · rfl
  · rfl

theorem quoted_eq (o : Offset) :
    o.quoted = if o.micros = 0 then "datetime.timezone.utc"
      else "datetime.timezone(datetime.timedelta(" ++ commaSeparated (o.parts.map Part.text) ++
        "))" := by
  rw [quoted]
  simp only [parts, List.map_append, map_text_partOf]
  rfl

theorem listed_parts_inj {o p : Offset} {cs ds : List Char}
    (same : (commaSeparated (o.parts.map Part.text)).toList ++ ')' :: cs =
      (commaSeparated (p.parts.map Part.text)).toList ++ ')' :: ds) : o = p := by
  have closes : Closes ')' := .inl rfl
  rw [Text.toList_commaSeparated, Text.toList_commaSeparated, Text.listed_map,
    Text.listed_map] at same
  have parts := listed_inj (fun p _ q => p.told q) Part.opens closes closes same
  exact eq_of_micros (by rw [← sum_parts, ← sum_parts, parts])

theorem told (o p : Offset) : Told (fun o : Offset => o.quoted.toList) o p := by
  intro cs ds stop stop' same
  simp only [quoted_eq] at same
  split at same
  · next zero =>
    split at same
    · next zero' => exact eq_of_micros (zero.trans zero'.symm)
    · simp only [String.toList_append, List.append_assoc] at same
      have mark : some '.' = some '(' := congrArg (fun cs : List Char => cs[17]?) same
      cases mark
  · split at same
    · simp only [String.toList_append, List.append_assoc] at same
      have mark : some '(' = some '.' := congrArg (fun cs : List Char => cs[17]?) same
      cases mark
    · simp only [String.toList_append, List.append_assoc] at same
      exact listed_parts_inj (List.append_cancel_left same)

end Offset

/-! ### Dates and clock times -/

/-- A number or an offset among the parts of a calendar value. -/
inductive CalendarPart where
  | number (n : Nat)
  | zone (o : Offset)

namespace CalendarPart

/-- The text of a part. -/
def text : CalendarPart → String
  | number n => toString n
  | zone o => "tzinfo=" ++ o.quoted

theorem toList_number (n : Nat) : (number n).text.toList = Nat.toDigits 10 n :=
  Text.toList_repr n

theorem head_number (n : Nat) :
    ∃ c cs, (number n).text.toList = c :: cs ∧ c.isDigit = true := by
  rw [toList_number]
  exact Text.head_toDigits n

theorem head_zone (o : Offset) : ∃ cs, (zone o).text.toList = 't' :: cs := by
  rw [text, String.toList_append]
  exact ⟨_, rfl⟩

theorem number_append_ne_zone {n : Nat} {o : Offset} {cs ds : List Char} :
    (number n).text.toList ++ cs ≠ (zone o).text.toList ++ ds := by
  obtain ⟨c, rest, shown, digit⟩ := head_number n
  obtain ⟨rest', shown'⟩ := head_zone o
  intro same
  rw [shown, shown'] at same
  rw [(List.cons.inj same).1] at digit
  cases digit

theorem told (p q : CalendarPart) : Told (fun p : CalendarPart => p.text.toList) p q := by
  intro cs ds stop stop' same
  cases p with
  | number m =>
    cases q with
    | number n =>
      simp only [toList_number] at same
      have read := Text.readDigits_append (fun c => Text.isDigit_of_mem_toDigits (n := m))
        stop.noDigit
      rw [same, Text.readDigits_append (fun c => Text.isDigit_of_mem_toDigits) stop'.noDigit,
        Prod.mk.injEq] at read
      rw [← Text.ofDigits_toDigits m, ← Text.ofDigits_toDigits n, read.1]
    | zone o => exact (number_append_ne_zone same).elim
  | zone o =>
    cases q with
    | number n => exact (number_append_ne_zone same.symm).elim
    | zone p =>
      simp only [text, String.toList_append, List.append_assoc] at same
      rw [o.told p cs ds stop stop' (List.append_cancel_left same)]

theorem opens (p : CalendarPart) : Opens p.text.toList := by
  cases p with
  | number n =>
    obtain ⟨c, cs, shown, digit⟩ := head_number n
    refine ⟨c, cs, shown, ?_⟩
    rintro (rfl | rfl | rfl)
    · cases digit
    · cases digit
    · cases digit
  | zone o =>
    obtain ⟨cs, shown⟩ := head_zone o
    exact ⟨'t', cs, shown, by decide⟩

/-- Numbers, and an offset behind them. -/
def spelled (numbers : List Nat) (offset : Option Offset) : List CalendarPart :=
  numbers.map number ++ offset.toList.map zone

theorem map_text_spelled (numbers : List Nat) (offset : Option Offset) :
    (spelled numbers offset).map text =
      numbers.map toString ++ Value.offsetParts offset := by
  rw [spelled, List.map_append, List.map_map]
  cases offset with
  | none => rfl
  | some o => rfl

/-- The number that a part is. -/
def number? : CalendarPart → Option Nat
  | number n => some n
  | zone _ => none

/-- The offset that a part is. -/
def zone? : CalendarPart → Option Offset
  | number _ => none
  | zone o => some o

theorem filterMap_number_spelled (numbers : List Nat) (offset : Option Offset) :
    (spelled numbers offset).filterMap number? = numbers := by
  cases offset with
  | none => simp [spelled, List.filterMap_map, Function.comp_def, number?]
  | some o => simp [spelled, List.filterMap_map, Function.comp_def, number?]

theorem filterMap_zone_spelled (numbers : List Nat) (offset : Option Offset) :
    (spelled numbers offset).filterMap zone? = offset.toList := by
  cases offset with
  | none => simp [spelled, zone?]
  | some o => simp [spelled, List.filterMap_map, Function.comp_def, zone?]

theorem spelled_inj {m n : List Nat} {o p : Option Offset} (same : spelled m o = spelled n p) :
    m = n ∧ o = p := by
  constructor
  · rw [← filterMap_number_spelled m o, same, filterMap_number_spelled]
  · rw [← Option.head?_toList (o := o), ← filterMap_zone_spelled m o, same,
      filterMap_zone_spelled, Option.head?_toList]

/-- Numbers between commas, and an offset behind them, are told apart up to the closing bracket. -/
theorem commaSeparated_inj {m n : List Nat} {o p : Option Offset} {cs ds : List Char}
    (same : (commaSeparated (m.map toString ++ Value.offsetParts o)).toList ++ ')' :: cs =
      (commaSeparated (n.map toString ++ Value.offsetParts p)).toList ++ ')' :: ds) :
    m = n ∧ o = p := by
  have closes : Closes ')' := .inl rfl
  rw [← map_text_spelled, ← map_text_spelled, Text.toList_commaSeparated,
    Text.toList_commaSeparated, Text.listed_map, Text.listed_map] at same
  exact spelled_inj (listed_inj (fun p _ q => p.told q) opens closes closes same)

end CalendarPart

namespace Clock

/-- The numbers that a clock time is spelled by. -/
def numbers (c : Clock) : List Nat :=
  [c.hour, c.minute] ++ (if c.second = 0 && c.micro = 0 then [] else [c.second]) ++
    (if c.micro = 0 then [] else [c.micro])

theorem parts_eq (c : Clock) : c.parts = c.numbers.map toString := by
  rw [parts, numbers]
  split
  · split
    · rfl
    · rfl
  · split
    · rfl
    · rfl

/-- Numbers that are left out are zero. -/
theorem getD_numbers (c : Clock) :
    c.numbers.getD 0 0 = c.hour ∧ c.numbers.getD 1 0 = c.minute ∧
      c.numbers.getD 2 0 = c.second ∧ c.numbers.getD 3 0 = c.micro := by
  rw [numbers]
  split
  · next zero =>
    simp only [Bool.and_eq_true, decide_eq_true_eq] at zero
    simp [zero]
  · split
    · next zero => simp [zero]
    · simp

theorem eq_of_numbers {c d : Clock} (same : c.numbers = d.numbers) : c = d := by
  obtain ⟨hour, minute, second, micro⟩ := c.getD_numbers
  obtain ⟨hour', minute', second', micro'⟩ := d.getD_numbers
  rw [same] at hour minute second micro
  exact eq_of_parts (hour.symm.trans hour') (minute.symm.trans minute') (second.symm.trans second')
    (micro.symm.trans micro')

end Clock
end Eligibility
