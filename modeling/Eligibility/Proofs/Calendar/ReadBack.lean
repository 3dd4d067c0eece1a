/-
# Calendar texts read back

What is written as ISO text is read back from it: a date as its midnight
(`Moment.ofChars?_dateText`), and a moment as itself, but for one thing.  An offset of less than a
second is read as none at all, so a moment with such an offset comes back in universal time
(`Moment.ofChars?_isoText`), and exactly these do not come back as they were
(`Moment.ofText?_isoText_iff`).

Each part is written in digits of a fixed width, so it is read whatever follows it.
-/

import Eligibility.Calendar.Reading
import Eligibility.Proofs.Calendar.IsoText
import Eligibility.Proofs.Text.Quoted

namespace Eligibility

/-! ### Digits of a fixed width -/

theorem readFixed_append {digits : List Char} (all : ∀ c ∈ digits, c.isDigit = true) (acc : Nat)
    (rest : List Char) : readFixed digits.length acc (digits ++ rest) =
      some ((Text.valuesOf digits).foldl (fun n d => n * 10 + d) acc, rest) := by
  induction digits generalizing acc with
  | nil => rfl
  | cons c digits ih =>
    obtain ⟨digit, others⟩ := List.forall_mem_cons.1 all
    have found : Text.asciiDigit? c = some (c.toNat - 48) := if_pos digit
    rw [List.length_cons, List.cons_append, readFixed, found]
    exact ih others _

namespace Text

variable {width n : Nat}

theorem readFixed_padded (positive : 0 < width) (small : n < Nat.pow 10 width) (rest : List Char) :
    readFixed width 0 ((padded 10 width n).toList ++ rest) = some (n, rest) := by
  have all : ∀ c ∈ (padded 10 width n).toList, c.isDigit = true := fun c => isDigit_of_mem_padded
  have read := readFixed_append all 0 rest
  rw [length_padded (by decide) positive small] at read
  rw [read, ← ofDigits, ofDigits_padded]

/-- What is written behind nothing else is read to its end. -/
theorem readFixed_padded_nil (positive : 0 < width) (small : n < Nat.pow 10 width) :
    readFixed width 0 (padded 10 width n).toList = some (n, []) := by
  have read := readFixed_padded positive small []
  rwa [List.append_nil] at read

theorem exists_padded (width n : Nat) :
    ∃ c rest, (padded 10 width n).toList = c :: rest ∧ c.isDigit = true := by
  obtain ⟨c, rest, shown⟩ := List.exists_cons_of_ne_nil (padded_ne_nil 10 width n)
  have digits : ∀ d ∈ (padded 10 width n).toList, d.isDigit = true := fun d => isDigit_of_mem_padded
  exact ⟨c, rest, shown, digits c (by simp [shown])⟩

theorem padded_append_ne_nil (width n : Nat) (rest : List Char) :
    (padded 10 width n).toList ++ rest ≠ [] :=
  List.append_ne_nil_of_left_ne_nil (padded_ne_nil 10 width n) rest

end Text

/-! ### Dates -/

theorem daysInMonth_le (year month : Nat) : daysInMonth year month ≤ 31 := by
  have each : ∀ n ∈ monthLengths year, n ≤ 31 := by
    unfold monthLengths
    split <;> decide
  unfold daysInMonth
  split
  · exact Nat.zero_le 31
  · cases found : (monthLengths year)[month - 1]? with
    | none => exact Nat.zero_le 31
    | some n => exact each n (List.mem_of_getElem? found)

theorem month_le_of_daysInMonth {year month : Nat} (exist : 1 ≤ daysInMonth year month) :
    month ≤ 12 := by
  unfold daysInMonth at exist
  split at exist
  · omega
  · cases found : (monthLengths year)[month - 1]? with
    | none => simp [found] at exist
    | some n =>
      have inside := (List.getElem?_eq_some_iff.1 found).1
      simp only [monthLengths, List.length_cons, List.length_nil] at inside
      omega

namespace Date

theorem year_lt (d : Date) : d.year < Nat.pow 10 4 :=
  Nat.lt_of_le_of_lt d.valid.1.2 (by decide)

theorem month_lt (d : Date) : d.month < Nat.pow 10 2 :=
  Nat.lt_of_le_of_lt (month_le_of_daysInMonth (Nat.le_trans d.valid.2.1 d.valid.2.2)) (by decide)

theorem day_lt (d : Date) : d.day < Nat.pow 10 2 :=
  Nat.lt_of_le_of_lt (Nat.le_trans d.valid.2.2 (daysInMonth_le d.year d.month)) (by decide)

theorem readMonthDay?_of_parts (d : Date) :
    readMonthDay? d.year true
      ((Text.padded 10 2 d.month).toList ++ '-' :: (Text.padded 10 2 d.day).toList) = some d := by
  have exist : of? d.year d.month d.day = some d := dif_pos d.valid
  simp only [readMonthDay?, Text.readFixed_padded (by decide) d.month_lt,
    Text.readFixed_padded_nil (by decide) d.day_lt, Option.bind_eq_bind, Option.bind_some, exist]

theorem ofChars?_isoText (d : Date) : ofChars? d.isoText.toList = some d := by
  -- A digit follows the first hyphen, so this is no week.
  obtain ⟨c, rest, shown, digit⟩ := Text.exists_padded 2 d.month
  have read := d.readMonthDay?_of_parts
  rw [shown, List.cons_append] at read
  rw [ofChars?, toList_isoText, shown, List.cons_append]
  simp only [Text.readFixed_padded (by decide) d.year_lt, Option.bind_eq_bind, Option.bind_some]
  split
  · next same =>
    obtain ⟨-, rfl, -⟩ : '-' = '-' ∧ c = 'W' ∧ _ := by simpa using same
    cases digit
  · next same =>
    rw [← (List.cons.inj same).2]
    exact read
  · next same => cases (List.cons.inj same).1
  · next other _ => exact (other _ rfl).elim

end Date

/-! ### Clock times and offsets -/

/-- The fields of a clock time. -/
def Clock.fields (c : Clock) : ClockFields := ⟨c.hour, c.minute, c.second, c.micro⟩

theorem Clock.hour_lt (c : Clock) : c.hour < Nat.pow 10 2 := Nat.lt_trans c.valid.1 (by decide)

theorem Clock.minute_lt (c : Clock) : c.minute < Nat.pow 10 2 :=
  Nat.lt_trans c.valid.2.1 (by decide)

theorem Clock.second_lt (c : Clock) : c.second < Nat.pow 10 2 :=
  Nat.lt_trans c.valid.2.2.1 (by decide)

namespace ClockFields

variable {f : ClockFields} {colons : Bool} {value left : Nat}

/-- A field with a colon and more behind it is read, and the colon makes the form one with
colons. -/
theorem readFrom?_colon (small : value < Nat.pow 10 2) (form : left = 2 ∨ colons = true)
    {rest : List Char} (more : rest ≠ []) :
    readFrom? f colons (left + 1) ((Text.padded 10 2 value).toList ++ ':' :: rest) =
      readFrom? (f.set (2 - left) value) true left rest := by
  obtain ⟨c, cs, rfl⟩ := List.exists_cons_of_ne_nil more
  have colon : (if 2 - left = 0 then ':' == ':' else colons) = true := by
    split
    · rfl
    · next later => exact form.resolve_left fun first => later (by omega)
  simp only [readFrom?, Text.readFixed_padded (by decide) small, Option.bind_eq_bind,
    Option.bind_some, colon]
  rfl

/-- The last field. -/
theorem readFrom?_last (small : value < Nat.pow 10 2) :
    readFrom? f colons (left + 1) (Text.padded 10 2 value).toList =
      some (f.set (2 - left) value, false) := by
  simp only [readFrom?, Text.readFixed_padded_nil (by decide) small, Option.bind_eq_bind,
    Option.bind_some]
  rfl

theorem readFraction?_padded (small : value < Nat.pow 10 6) :
    readFraction? f (Text.padded 10 6 value).toList = some ({ f with micro := value }, false) := by
  have places : min 6 (Text.padded 10 6 value).toList.length = 6 := by
    rw [Text.length_padded (by decide) (by decide) small]
    rfl
  simp only [readFraction?, places, Text.readFixed_padded_nil (by decide) small,
    Option.bind_eq_bind, Option.bind_some]
  simp

/-- The seconds and their fraction. -/
theorem readFrom?_second (unread : f.micro = 0) {c : Clock} :
    readFrom? f true 1 ((Text.padded 10 2 c.second).toList ++ microText c.micro) =
      some ({ f with second := c.second, micro := c.micro }, false) := by
  rw [microText]
  split
  · next whole =>
    rw [List.append_nil, readFrom?_last c.second_lt, whole]
    simp [set, unread]
  · obtain ⟨d, cs, shown, -⟩ := Text.exists_padded 6 c.micro
    have read := readFraction?_padded (f := f.set 2 c.second) c.valid.2.2.2
    rw [shown] at read ⊢
    simp only [readFrom?, Text.readFixed_padded (by decide) c.second_lt, Option.bind_eq_bind,
      Option.bind_some]
    exact read

/-- Hours and minutes, with a colon between them and more behind. -/
theorem read?_minute (c : Clock) {rest : List Char} (more : rest ≠ []) :
    read? ((Text.padded 10 2 c.hour).toList ++ ':' ::
        ((Text.padded 10 2 c.minute).toList ++ ':' :: rest)) =
      readFrom? { hour := c.hour, minute := c.minute } true 1 rest := by
  rw [read?, readFrom?_colon c.hour_lt (.inl rfl) (Text.padded_append_ne_nil _ _ _),
    readFrom?_colon c.minute_lt (.inr rfl) more]
  rfl

theorem read?_isoText (c : Clock) : read? c.isoText.toList = some (c.fields, false) := by
  rw [Clock.toList_isoText, read?_minute c (Text.padded_append_ne_nil _ _ _),
    readFrom?_second rfl]
  rfl

theorem read?_secondsText (c : Clock) :
    read? ((Text.padded 10 2 c.hour).toList ++ ':' ::
      ((Text.padded 10 2 c.minute).toList ++ Offset.secondsText c)) = some (c.fields, false) := by
  rw [Offset.secondsText]
  split
  · next whole =>
    obtain ⟨second, micro⟩ : c.second = 0 ∧ c.micro = 0 := by simpa using whole
    rw [List.append_nil, read?, readFrom?_colon c.hour_lt (.inl rfl) (Text.padded_ne_nil _ _ _),
      readFrom?_last c.minute_lt]
    simp [set, Clock.fields, second, micro]
  · rw [read?_minute c (Text.padded_append_ne_nil _ _ _), readFrom?_second rfl]
    rfl

end ClockFields

/-- The offset that the text of an offset is read as: less than a second is none. -/
def Offset.readBack (o : Offset) : Offset := if o.micros.natAbs < 1000000 then zero else o

theorem Offset.readBack_eq_self {o : Offset} :
    o.readBack = o ↔ o.micros = 0 ∨ 1000000 ≤ o.micros.natAbs := by
  unfold readBack
  split
  · next tiny =>
    constructor
    · rintro rfl
      exact .inl rfl
    · intro whole
      exact (eq_of_micros (whole.resolve_right (by omega))).symm
  · next large => exact ⟨fun _ => .inr (by omega), fun _ => rfl⟩

/-- An offset is its sign and the length that is read behind it. -/
theorem readOffset?_of_read? {sign : Char} {rest : List Char} {fields : ClockFields}
    (known : sign ≠ 'Z') (read : ClockFields.read? rest = some (fields, false)) :
    readOffset? (sign :: rest) =
      if fields.micros < 1000000 then some (some Offset.zero)
      else
        (Offset.of? (if sign == '-' then -(fields.micros : Int) else fields.micros)).map some := by
  unfold readOffset?
  split
  · next same => cases same
  · next same => exact (known (List.cons.inj same).1).elim
  · next same =>
    obtain ⟨rfl, rfl⟩ := List.cons.inj same
    -- Reduced by `simp`, the match would leave the kernel to evaluate the comparison below it.
    rw [read, Option.bind_eq_bind, Option.bind_some]
    split
    · next same' =>
      obtain ⟨rfl, -⟩ := Prod.mk.inj same'
      split
      · rfl
      · exact Option.map_eq_bind.symm
    · next other => exact (other fields rfl).elim

theorem readOffset?_isoText (o : Offset) :
    readOffset? o.isoText.toList = some (some o.readBack) := by
  have bounds := o.valid
  rw [dayMicros] at bounds
  have length : (Clock.ofMicros o.micros.natAbs).fields.micros = o.micros.natAbs :=
    Clock.micros_ofMicros (by omega)
  have signed : (if (if o.micros < 0 then '-' else '+') == '-' then -(o.micros.natAbs : Int)
      else o.micros.natAbs) = o.micros := by
    split
    · simp only [BEq.rfl, if_true]
      omega
    · have plus : ('+' == '-') = false := rfl
      simp only [plus, Bool.false_eq_true, if_false]
      omega
  have exist : Offset.of? o.micros = some o := dif_pos o.valid
  have known : (if o.micros < 0 then '-' else '+') ≠ 'Z' := by
    split <;> decide
  rw [Offset.toList_isoText, readOffset?_of_read? known (ClockFields.read?_secondsText _), length,
    signed, exist, Offset.readBack]
  split
  · rfl
  · rfl

theorem readOffset?_offsetText (o : Option Offset) :
    readOffset? (offsetText o).toList = some (o.map Offset.readBack) := by
  cases o with
  | none => rfl
  | some p => exact readOffset?_isoText p

/-! ### The characters of a text -/

theorem Date.of_mem_isoText {d : Date} {c : Char} (member : c ∈ d.isoText.toList) :
    c.isDigit = true ∨ c = '-' := by
  rw [toList_isoText] at member
  simp only [List.mem_append, List.mem_cons] at member
  obtain year | hyphen | month | hyphen | day := member
  · exact .inl (Text.isDigit_of_mem_padded year)
  · exact .inr hyphen
  · exact .inl (Text.isDigit_of_mem_padded month)
  · exact .inr hyphen
  · exact .inl (Text.isDigit_of_mem_padded day)

theorem of_mem_microText {n : Nat} {c : Char} (member : c ∈ microText n) :
    c.isDigit = true ∨ c = '.' := by
  rw [microText] at member
  split at member
  · cases member
  · obtain point | place := List.mem_cons.1 member
    · exact .inr point
    · exact .inl (Text.isDigit_of_mem_padded place)

theorem Clock.of_mem_isoText {t : Clock} {c : Char} (member : c ∈ t.isoText.toList) :
    c.isDigit = true ∨ c = ':' ∨ c = '.' := by
  rw [toList_isoText] at member
  simp only [List.mem_append, List.mem_cons] at member
  obtain hour | colon | minute | colon | second | micro := member
  · exact .inl (Text.isDigit_of_mem_padded hour)
  · exact .inr (.inl colon)
  · exact .inl (Text.isDigit_of_mem_padded minute)
  · exact .inr (.inl colon)
  · exact .inl (Text.isDigit_of_mem_padded second)
  · exact (of_mem_microText micro).imp_right .inr

theorem Offset.of_mem_secondsText {t : Clock} {c : Char} (member : c ∈ secondsText t) :
    c.isDigit = true ∨ c = ':' ∨ c = '.' := by
  rw [secondsText] at member
  split at member
  · cases member
  · simp only [List.mem_append, List.mem_cons] at member
    obtain colon | second | micro := member
    · exact .inr (.inl colon)
    · exact .inl (Text.isDigit_of_mem_padded second)
    · exact (of_mem_microText micro).imp_right .inr

theorem Offset.of_mem_isoText {o : Offset} {c : Char} (member : c ∈ o.isoText.toList) :
    c.isDigit = true ∨ c ∈ ['+', '-', ':', '.'] := by
  rw [toList_isoText] at member
  simp only [List.mem_append, List.mem_cons] at member
  obtain sign | hour | colon | minute | seconds := member
  · right
    split at sign
    · simp [sign]
    · simp [sign]
  · exact .inl (Text.isDigit_of_mem_padded hour)
  · exact .inr (by simp [colon])
  · exact .inl (Text.isDigit_of_mem_padded minute)
  · exact (of_mem_secondsText seconds).imp_right (by rintro (rfl | rfl) <;> simp)

theorem Moment.of_mem_isoText {m : Moment} {c : Char} (member : c ∈ m.isoText.toList) :
    c.isDigit = true ∨ c ∈ ['+', '-', ':', '.', 'T'] := by
  rw [toList_isoText, String.toList_append] at member
  simp only [List.mem_append, List.mem_cons] at member
  obtain date | letter | clock | offset := member
  · exact (Date.of_mem_isoText date).imp_right (by rintro rfl; simp)
  · exact .inr (by simp [letter])
  · exact (Clock.of_mem_isoText clock).imp_right (by rintro (rfl | rfl) <;> simp)
  · cases known : m.offset with
    | none =>
      rw [known] at offset
      exact (List.not_mem_nil offset).elim
    | some o =>
      rw [known] at offset
      exact (Offset.of_mem_isoText offset).imp_right (List.mem_append_left ['T'])

/-! ### Moments -/

/-- A clock time is read up to its offset. -/
theorem startsOffset_of_mem_isoText {t : Clock} {c : Char} (member : c ∈ t.isoText.toList) :
    startsOffset c = false := by
  obtain digit | rfl | rfl := Clock.of_mem_isoText member
  · simp only [startsOffset, Bool.or_eq_false_iff, beq_eq_false_iff_ne]
    refine ⟨⟨?_, ?_⟩, ?_⟩
    · rintro rfl
      cases digit
    · rintro rfl
      cases digit
    · rintro rfl
      cases digit
  · rfl
  · rfl

theorem readClock?_isoText (c : Clock) (o : Option Offset) :
    readClock? (c.isoText ++ offsetText o).toList = some (c, o.map Offset.readBack) := by
  have inner : ∀ d ∈ c.isoText.toList, (!startsOffset d) = true := by
    intro d member
    rw [startsOffset_of_mem_isoText member]
    rfl
  have stop : (offsetText o).toList.takeWhile (!startsOffset ·) = [] ∧
      (offsetText o).toList.dropWhile (!startsOffset ·) = (offsetText o).toList := by
    have ends := endsClock_offsetText o
    cases shown : (offsetText o).toList with
    | nil => exact ⟨rfl, rfl⟩
    | cons d rest =>
      rw [shown] at ends
      obtain rfl | rfl := ends d rfl
      · exact ⟨rfl, rfl⟩
      · exact ⟨rfl, rfl⟩
  have exist : Clock.of? c.hour c.minute c.second c.micro = some c := dif_pos c.valid
  rw [readClock?, String.toList_append, List.takeWhile_append_of_pos inner,
    List.dropWhile_append_of_pos inner, stop.1, stop.2, List.append_nil]
  simp only [ClockFields.read?_isoText, readOffset?_offsetText, Option.bind_eq_bind,
    Option.bind_some, Clock.fields, exist]
  simp

namespace Moment

theorem length_dateText (d : Date) : d.isoText.toList.length = 10 := by
  rw [Date.toList_isoText, List.length_append, List.length_cons, List.length_append,
    List.length_cons, Text.length_padded (by decide) (by decide) d.year_lt,
    Text.length_padded (by decide) (by decide) d.month_lt,
    Text.length_padded (by decide) (by decide) d.day_lt]

theorem dateLength_dateText (d : Date) (rest : List Char) :
    dateLength (d.isoText.toList ++ rest) = 10 := by
  obtain ⟨c, cs, shown, digit⟩ := Text.exists_padded 2 d.month
  have year := Text.length_padded (by decide) (by decide) d.year_lt
  have long : ¬(d.isoText.toList ++ rest).length = 7 := by
    rw [List.length_append, length_dateText]
    omega
  have fifth : (d.isoText.toList ++ rest)[4]? = some '-' := by
    simp [Date.toList_isoText, year]
  have sixth : (d.isoText.toList ++ rest)[5]? = some c := by
    rw [Date.toList_isoText, List.append_assoc, List.getElem?_append_right (by omega), year, shown]
    rfl
  rw [dateLength, if_neg long, fifth, sixth]
  split
  · next same =>
    cases same
    cases digit
  · rfl
  · next same => cases same
  · next other _ _ => exact (other rfl).elim

/-- A date alone is its midnight. -/
theorem ofChars?_dateText (d : Date) : ofChars? d.isoText.toList = some (ofDate d) := by
  have length := dateLength_dateText d []
  rw [List.append_nil] at length
  have whole := length_dateText d
  have long : ¬d.isoText.toList.length < 7 := by omega
  have taken : d.isoText.toList.take 10 = d.isoText.toList := List.take_of_length_le (by omega)
  have left : d.isoText.toList.drop 10 = [] := List.drop_of_length_le (by omega)
  simp only [ofChars?, long, if_false, length, taken, left, Date.ofChars?_isoText]
  rfl

theorem ofChars?_isoText (m : Moment) :
    ofChars? m.isoText.toList = some { m with offset := m.offset.map Offset.readBack } := by
  have whole := length_dateText m.date
  rw [toList_isoText]
  have long : ¬(m.date.isoText.toList ++
      'T' :: (m.clock.isoText ++ offsetText m.offset).toList).length < 7 := by
    rw [List.length_append]
    omega
  simp only [ofChars?, long, if_false, dateLength_dateText, List.take_left' whole,
    List.drop_left' whole, Date.ofChars?_isoText, readClock?_isoText]
  rfl

/-- **A moment is read back from its ISO text, unless its offset is less than a second.** -/
theorem ofText?_isoText_iff {m : Moment} :
    ofText? m.isoText = some m ↔
      ∀ o ∈ m.offset, o.micros = 0 ∨ 1000000 ≤ o.micros.natAbs := by
  obtain ⟨date, clock, offset⟩ := m
  rw [ofText?, ofChars?_isoText]
  cases offset with
  | none => simp
  | some o => simp [Offset.readBack_eq_self]

end Moment

end Eligibility
