/-
# Dates and the texts that write them

A date and its ISO text are the same operand of every comparison of dates, and so are a moment and
its own text, blanks around it or not, with `Z` or `z` for the offset of universal time
(`Operator.dates_as_text`).  The comparison takes the instant of either
(`Value.instant?_writtenAs`); where it reads a text, it trims it, writes a final `Z` out and reads
the ISO text that is left.
-/

import Mathlib.Data.List.TakeWhile
import Eligibility.Proofs.Calendar.ReadBack
import Eligibility.Proofs.Comparison.Dated

namespace Eligibility

/-! ### Blanks around a text -/

namespace Text

/-- The characters of ISO texts are not blank, and none is a letter for universal time. -/
theorem solid_of_iso {c : Char} (iso : c.isDigit = true ∨ c ∈ ['+', '-', ':', '.', 'T']) :
    isBlank c = false ∧ c ≠ 'Z' ∧ c ≠ 'z' := by
  obtain digit | sign := iso
  · refine ⟨isBlank_of_isDigit digit, ?_, ?_⟩
    · rintro rfl
      cases digit
    · rintro rfl
      cases digit
  · simp only [List.mem_cons, List.not_mem_nil, or_false] at sign
    rcases sign with rfl | rfl | rfl | rfl | rfl <;> decide

variable {p : Char → Bool} {front cs back : List Char}

/-- Trimming takes away whatever of the class stands around a text. -/
theorem trimBy_surrounded (before : ∀ c ∈ front, p c = true) (after : ∀ c ∈ back, p c = true) :
    trimBy p (front ++ cs ++ back) = trimBy p cs := by
  have trimEnd (cs : List Char) : trimEndBy p (cs ++ back) = trimEndBy p cs := by
    rw [trimEndBy, List.reverse_append, List.dropWhile_append_of_pos (by simpa using after),
      trimEndBy]
  rw [trimBy, List.append_assoc, List.dropWhile_append_of_pos before, List.dropWhile_append, trimBy]
  split
  · next none =>
    rw [List.isEmpty_iff.1 none, List.dropWhile_eq_nil_iff.2 after]
  · exact trimEnd _

end Text

/-! ### Texts of dates and moments -/

/-- The text of a moment up to its offset. -/
def Moment.localText (m : Moment) : String := m.date.isoText ++ "T" ++ m.clock.isoText

namespace Moment

theorem isoText_eq (m : Moment) : m.isoText = m.localText ++ offsetText m.offset := rfl

theorem isoText_universal {m : Moment} (universal : m.offset = some Offset.zero) :
    m.isoText = m.localText ++ "+00:00" := by
  have zero : offsetText (some Offset.zero) = "+00:00" := by decide +kernel
  rw [isoText_eq, universal, zero]

end Moment

namespace Value

/-- A text that writes a date or a moment: its ISO text, when that is read back, with a letter for
the offset of universal time perhaps, and with blanks around it perhaps. -/
inductive WrittenAs : Value → String → Prop
  | date (d : Date) : WrittenAs (.date d) d.isoText
  | moment {m : Moment} (readBack : Moment.ofText? m.isoText = some m) :
    WrittenAs (.moment m) m.isoText
  | universal {m : Moment} (universal : m.offset = some Offset.zero) {letter : String}
    (known : letter = "Z" ∨ letter = "z") : WrittenAs (.moment m) (m.localText ++ letter)
  | surrounded {v : Value} {s front back : String} (written : WrittenAs v s)
    (before : ∀ c ∈ front.toList, Text.isBlank c = true)
    (after : ∀ c ∈ back.toList, Text.isBlank c = true) : WrittenAs v (front ++ s ++ back)

theorem expandZulu_of_none {cs : List Char} (none : ∀ c ∈ cs, c ≠ 'Z' ∧ c ≠ 'z') :
    expandZulu cs = cs := by
  unfold expandZulu
  split
  · next c before shown =>
    have last : c ∈ cs := by
      rw [← List.mem_reverse, shown]
      exact List.mem_cons_self
    rw [if_neg (by simp [none c last])]
  · next shown => exact (List.reverse_eq_nil_iff.1 shown).symm

theorem expandZulu_letter (cs : List Char) {c : Char} (letter : c = 'Z' ∨ c = 'z') :
    expandZulu (cs ++ [c]) = cs ++ "+00:00".toList := by
  have known : (decide (c = 'Z') || decide (c = 'z')) = true := by simpa using letter
  rw [expandZulu, List.reverse_append, List.reverse_singleton, List.singleton_append]
  simp only [known, if_true, List.reverse_reverse]

theorem instantOfText?_surrounded {front s back : String}
    (before : ∀ c ∈ front.toList, Text.isBlank c = true)
    (after : ∀ c ∈ back.toList, Text.isBlank c = true) :
    instantOfText? (front ++ s ++ back) = instantOfText? s := by
  rw [instantOfText?, String.toList_append, String.toList_append,
    Text.trimBy_surrounded before after, instantOfText?]

/-- A text without blanks and without a letter for universal time is read as it is. -/
theorem instantOfText?_solid {s : String}
    (solid : ∀ c ∈ s.toList, Text.isBlank c = false ∧ c ≠ 'Z' ∧ c ≠ 'z') :
    instantOfText? s = (Moment.ofText? s).map Moment.toInstant := by
  rw [instantOfText?, Text.trimBy_of_none fun c member => (solid c member).1,
    expandZulu_of_none fun c member => (solid c member).2, Moment.ofText?]

theorem instantOfText?_letter {s : String} (solid : ∀ c ∈ s.toList, Text.isBlank c = false)
    {letter : String} (known : letter = "Z" ∨ letter = "z") :
    instantOfText? (s ++ letter) = (Moment.ofText? (s ++ "+00:00")).map Moment.toInstant := by
  obtain ⟨c, shown, isLetter⟩ : ∃ c, letter.toList = [c] ∧ (c = 'Z' ∨ c = 'z') := by
    obtain rfl | rfl := known
    · exact ⟨'Z', rfl, .inl rfl⟩
    · exact ⟨'z', rfl, .inr rfl⟩
  have notBlank : Text.isBlank c = false := by
    obtain rfl | rfl := isLetter <;> rfl
  have solid' : ∀ d ∈ s.toList ++ [c], Text.isBlank d = false := by
    simpa [or_imp, forall_and, notBlank] using solid
  rw [instantOfText?, String.toList_append, shown, Text.trimBy_of_none solid',
    expandZulu_letter _ isLetter, Moment.ofText?, String.toList_append]

/-- A value and a text that writes it are the same instant. -/
theorem instant?_writtenAs {x : Value} {s : String} (written : x.WrittenAs s) :
    x.instant? = (text s).instant? := by
  suffices same : x.instant? = .ok (instantOfText? s) from same
  induction written with
  | date d =>
    have solid : ∀ c ∈ d.isoText.toList, Text.isBlank c = false ∧ c ≠ 'Z' ∧ c ≠ 'z' := by
      intro c member
      exact Text.solid_of_iso ((Date.of_mem_isoText member).imp_right (by rintro rfl; simp))
    rw [instantOfText?_solid solid, Moment.ofText?, Moment.ofChars?_dateText]
    rfl
  | @moment m readBack =>
    rw [instantOfText?_solid fun c member => Text.solid_of_iso (Moment.of_mem_isoText member),
      readBack]
    rfl
  | @universal m universal letter known =>
    have solid : ∀ c ∈ m.localText.toList, Text.isBlank c = false := by
      intro c member
      refine (Text.solid_of_iso (Moment.of_mem_isoText (m := m) ?_)).1
      rw [Moment.isoText_eq, String.toList_append]
      exact List.mem_append_left _ member
    have readBack : Moment.ofText? m.isoText = some m := by
      refine Moment.ofText?_isoText_iff.2 ?_
      rw [universal]
      rintro _ ⟨⟩
      exact .inl rfl
    rw [instantOfText?_letter solid known, ← Moment.isoText_universal universal, readBack]
    rfl
  | surrounded written before after ih => rw [ih, instantOfText?_surrounded before after]

theorem sequence?_writtenAs {x : Value} {s : String} (written : x.WrittenAs s) :
    x.sequence? = none := by
  induction written with
  | date d => rfl
  | moment readBack => rfl
  | universal universal known => rfl
  | surrounded written before after ih => exact ih

end Value

/-! ### The operators -/

namespace Operator

/-- The instants of the two items of a range. -/
def boundInstants (range : Value) : Option (Except NumberFault (Option Instant) ×
    Except NumberFault (Option Instant)) :=
  (Comparison.pair? range).map fun pair => (pair.1.instant?, pair.2.instant?)

theorem boundInstants_of_sequence {range first last : Value}
    (items : range.sequence? = some [first, last]) :
    boundInstants range = some (first.instant?, last.instant?) := by
  rw [boundInstants, Comparison.pair?_eq_some.2 items]
  rfl

theorem boundInstants_of_none {range : Value} (none : range.sequence? = Option.none) :
    boundInstants range = Option.none := by
  rw [boundInstants, Comparison.pair?, none]
  rfl

/-- Being before and being after are about the two instants. -/
theorem compare_dated_congr {op : Operator} (dated : op = before ∨ op = after) {a a' b b' : Value}
    (same : a.instant? = a'.instant?) (same' : b.instant? = b'.instant?) :
    op.compare a b = op.compare a' b' := by
  obtain rfl | rfl := dated
  · have carries : Comparison.carryOut before = Comparison.dated fun m n => decide (m < n) := rfl
    rw [compare_dated carries rfl, compare_dated carries rfl, same, same']
  · have carries : Comparison.carryOut after = Comparison.dated fun m n => decide (n < m) := rfl
    rw [compare_dated carries rfl, compare_dated carries rfl, same, same']

/-- Lying in a range is about the instant and those of the bounds. -/
theorem compare_dateBetween_congr {a a' range range' : Value}
    (same : a.instant? = a'.instant?) (bounds : boundInstants range = boundInstants range') :
    dateBetween.compare a range = dateBetween.compare a' range' := by
  have carries (a range : Value) :
      Comparison.carryOut dateBetween (dateBetween.taken a) range =
        Comparison.dateBetween a.present range := rfl
  suffices carried : Comparison.dateBetween a.present range =
      Comparison.dateBetween a'.present range' by
    rw [compare, compare, carries, carries, carried]
  unfold Comparison.dateBetween
  rw [Value.instant?_present, Value.instant?_present, same]
  unfold boundInstants at bounds
  split
  · next first last pair =>
    rw [pair] at bounds
    obtain ⟨⟨first', last'⟩, pair', sameBounds⟩ := Option.map_eq_some_iff.1 bounds.symm
    obtain ⟨sameFirst, sameLast⟩ := Prod.mk.inj sameBounds
    rw [pair']
    simp only [sameFirst, sameLast]
  · next none =>
    rw [none] at bounds
    rw [Option.map_eq_none_iff.1 bounds.symm]

/-- **A date and a text that writes it are interchangeable** in every comparison of dates: as the
actual value, as the expected one, and as either bound of a range.  So are a moment and its own
text; for an offset of universal time, `Z` or `z` may stand for `+00:00`; and blanks may surround
the text.  This is of texts that are read back as what they write: a date as its midnight, always,
and a moment as itself, exactly if its offset is not a fraction of a second. -/
theorem dates_as_text :
    (∀ (x : Value) (s : String), x.WrittenAs s →
      (∀ op, op = before ∨ op = after ∨ op = dateBetween → ∀ y : Value,
        op.compare x y = op.compare (.text s) y ∧ op.compare y x = op.compare y (.text s)) ∧
      (∀ a y range range' : Value, range.sequence? = some [x, y] →
        range'.sequence? = some [.text s, y] →
        dateBetween.compare a range = dateBetween.compare a range') ∧
      ∀ a y range range' : Value, range.sequence? = some [y, x] →
        range'.sequence? = some [y, .text s] →
        dateBetween.compare a range = dateBetween.compare a range') ∧
    (∀ d : Date, Moment.ofText? d.isoText = some (Moment.ofDate d)) ∧
    (∀ m : Moment, Moment.ofText? m.isoText = some m ↔
      ∀ o ∈ m.offset, o.micros = 0 ∨ 1000000 ≤ o.micros.natAbs) ∧
    ∀ m : Moment, m.offset = some Offset.zero → m.isoText = m.localText ++ "+00:00" := by
  refine ⟨fun x s written => ?_, Moment.ofChars?_dateText, fun m => Moment.ofText?_isoText_iff,
    fun m => Moment.isoText_universal⟩
  have same := Value.instant?_writtenAs written
  refine ⟨?_, ?_, ?_⟩
  · rintro op (dated | dated | rfl) y
    · exact ⟨compare_dated_congr (.inl dated) same rfl, compare_dated_congr (.inl dated) rfl same⟩
    · exact ⟨compare_dated_congr (.inr dated) same rfl, compare_dated_congr (.inr dated) rfl same⟩
    · refine ⟨compare_dateBetween_congr same rfl, compare_dateBetween_congr rfl ?_⟩
      -- Neither is a range.
      rw [boundInstants_of_none (Value.sequence?_writtenAs written), boundInstants_of_none rfl]
  · intro a y range range' items items'
    refine compare_dateBetween_congr rfl ?_
    rw [boundInstants_of_sequence items, boundInstants_of_sequence items', same]
  · intro a y range range' items items'
    refine compare_dateBetween_congr rfl ?_
    rw [boundInstants_of_sequence items, boundInstants_of_sequence items', same]

/-- Half past nine by a clock three hours ahead, and half past six in universal time with a `z`,
written among blanks. -/
theorem dates_as_text_surrounded :
    let ahead : Moment := ⟨⟨2024, 2, 29, by decide⟩, ⟨9, 30, 0, 250000, by decide⟩,
      some ⟨10800000000, by decide⟩⟩
    let universal : Moment := ⟨⟨2024, 2, 29, by decide⟩, ⟨6, 30, 0, 0, by decide⟩, some Offset.zero⟩
    let written : Value := .text "\t2024-02-29T09:30:00.250000+03:00"
    let lettered : Value := .text " 2024-02-29T06:30:00z\n"
    before.compare (.moment universal) (.moment ahead) = before.compare lettered (.moment ahead) ∧
      before.compare lettered (.moment ahead) = before.compare lettered written ∧
      dateBetween.compare written (.list [.moment universal, written]) =
        dateBetween.compare written (.tuple [lettered, written]) ∧
      (before.compare lettered written).value = true ∧
      (dateBetween.compare written (.tuple [lettered, written])).value = true := by
  intro ahead universal written lettered
  obtain ⟨interchange, -, readBack, -⟩ := dates_as_text
  have blank {s : String} (all : s.toList.all Text.isBlank = true) :
      ∀ c ∈ s.toList, Text.isBlank c = true :=
    List.all_eq_true.1 all
  have first : (Value.moment ahead).WrittenAs "\t2024-02-29T09:30:00.250000+03:00" := by
    have whole : Moment.ofText? ahead.isoText = some ahead := by
      refine (readBack ahead).2 ?_
      rintro _ ⟨⟩
      exact .inr (by decide)
    have text : "\t" ++ ahead.isoText ++ "" = "\t2024-02-29T09:30:00.250000+03:00" := by
      decide +kernel
    exact text ▸ .surrounded (.moment whole) (blank (by decide)) (blank (by decide))
  have second : (Value.moment universal).WrittenAs " 2024-02-29T06:30:00z\n" := by
    have text : " " ++ (universal.localText ++ "z") ++ "\n" = " 2024-02-29T06:30:00z\n" := by
      decide +kernel
    exact text ▸ .surrounded (.universal rfl (.inr rfl)) (blank (by decide)) (blank (by decide))
  obtain ⟨each, -, -⟩ := interchange _ _ first
  obtain ⟨each', lower, -⟩ := interchange _ _ second
  refine ⟨(each' before (.inl rfl) _).1, (each before (.inl rfl) _).2,
    lower written written _ _ rfl rfl, ?_, ?_⟩
  · decide +kernel
  · decide +kernel

end Operator
end Eligibility
