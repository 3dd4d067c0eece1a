/-
# One order of instants

The operators that compare dates ask where two values stand on one line of time (`Value.position?`),
whatever these are: dates, moments with an offset or without, texts that write them, numbers of
seconds.  Being before is therefore a strict order, being after is its converse, and a value lies in
a range of dates when it is neither before the start nor after the end
(`Operator.dates_ordered`).  What is no instant stands nowhere, and no comparison with it passes.
-/

import Eligibility.Proofs.Comparison.Ordered

namespace Eligibility

/-! ### Instants -/

namespace Value

variable {v : Value}

/-- The value is an instant, or writes one. -/
def IsInstant (v : Value) : Prop := ∃ i, v.instant? = .ok (some i)

/-- Where the instant that a value is or writes stands in time. -/
def position? (v : Value) : Option Int :=
  match v.instant? with
  | .ok (some i) => some i.position
  | _ => none

theorem position?_eq_some {n : Int} :
    v.position? = some n ↔ ∃ i, v.instant? = .ok (some i) ∧ i.position = n := by
  unfold position?
  split
  · next i found => simp [found]
  · next none =>
    constructor
    · nofun
    · rintro ⟨i, found, -⟩
      exact (none i found).elim

theorem isInstant_iff : v.IsInstant ↔ ∃ n, v.position? = some n := by
  simp [position?_eq_some, IsInstant]

theorem instant?_present (v : Value) : v.present.instant? = v.instant? := by
  cases v <;> rfl

theorem position?_present (v : Value) : v.present.position? = v.position? := by
  rw [position?, instant?_present, ← position?]

end Value

/-! ### Comparisons of instants -/

namespace Comparison

variable {actual expected : Value}

/-- A comparison of dates comes to *yes* for two instants whose places stand the test. -/
theorem result_dated_eq_true {test : Int → Int → Bool} :
    (dated test actual expected).result = .ok true ↔
      ∃ m n, actual.position? = some m ∧ expected.position? = some n ∧ test m n = true := by
  simp only [dated, result_bind, result_ofNumber, Value.position?_eq_some]
  constructor
  · intro came
    obtain ⟨left, readLeft, rest⟩ := bind_eq_ok.1 came
    obtain ⟨right, readRight, same⟩ := bind_eq_ok.1 rest
    rw [mapError_eq_ok] at readLeft readRight
    split at same
    · next a b => exact ⟨_, _, ⟨a, readLeft, rfl⟩, ⟨b, readRight, rfl⟩, Except.ok.inj same⟩
    · cases same
  · rintro ⟨m, n, ⟨a, readLeft, rfl⟩, ⟨b, readRight, rfl⟩, stands⟩
    rw [readLeft, readRight]
    exact congrArg Except.ok stands

/-- A range of dates is a list or tuple of two instants, and a value lies in it when it stands
between them. -/
theorem result_dateBetween_eq_true : (dateBetween actual expected).result = .ok true ↔
    ∃ first last start stop n, expected.sequence? = some [first, last] ∧
      first.position? = some start ∧ last.position? = some stop ∧ actual.position? = some n ∧
      start ≤ n ∧ n ≤ stop := by
  unfold dateBetween
  simp only [Value.position?_eq_some]
  constructor
  · intro came
    split at came
    · next first last pair =>
      simp only [result_bind, result_ofNumber] at came
      obtain ⟨value, read, rest⟩ := bind_eq_ok.1 came
      obtain ⟨start, readFirst, later⟩ := bind_eq_ok.1 rest
      obtain ⟨stop, readLast, same⟩ := bind_eq_ok.1 later
      rw [mapError_eq_ok] at read readFirst readLast
      split at same
      · next x s t =>
        have lies : s.position ≤ x.position ∧ x.position ≤ t.position := by
          have both := Except.ok.inj same
          simp only [Bool.and_eq_true, decide_eq_true_eq] at both
          exact ⟨both.1.2, both.2⟩
        exact ⟨first, last, _, _, _, pair?_eq_some.1 pair, ⟨s, readFirst, rfl⟩, ⟨t, readLast, rfl⟩,
          ⟨x, read, rfl⟩, lies⟩
      · cases same
    · cases came
  · rintro ⟨first, last, _, _, _, pair, ⟨s, readFirst, rfl⟩, ⟨t, readLast, rfl⟩, ⟨x, read, rfl⟩,
      from', upTo⟩
    have forward : ¬t.position < s.position := by omega
    simp only [pair?_eq_some.2 pair, result_bind, result_ofNumber, read, readFirst, readLast]
    show Except.ok (!decide (t.position < s.position) && decide (s.position ≤ x.position) &&
      decide (x.position ≤ t.position)) = _
    rw [decide_eq_false forward, decide_eq_true from', decide_eq_true upTo]
    rfl

end Comparison

/-! ### The operators -/

namespace Operator

variable {a b range : Value}

theorem passes_before : before.Passes a b ↔
    ∃ m n, a.position? = some m ∧ b.position? = some n ∧ m < n := by
  have carried : before.outcome a b =
      (Comparison.dated (fun m n => decide (m < n)) a.present b).result := rfl
  rw [Passes, passes_iff, carried, Comparison.result_dated_eq_true, Value.position?_present]
  simp only [decide_eq_true_eq]

theorem passes_after : after.Passes a b ↔
    ∃ m n, a.position? = some m ∧ b.position? = some n ∧ n < m := by
  have carried : after.outcome a b =
      (Comparison.dated (fun m n => decide (n < m)) a.present b).result := rfl
  rw [Passes, passes_iff, carried, Comparison.result_dated_eq_true, Value.position?_present]
  simp only [decide_eq_true_eq]

theorem passes_dateBetween : dateBetween.Passes a range ↔
    ∃ first last start stop n, range.sequence? = some [first, last] ∧
      first.position? = some start ∧ last.position? = some stop ∧ a.position? = some n ∧
      start ≤ n ∧ n ≤ stop := by
  have carried : dateBetween.outcome a range =
      (Comparison.dateBetween a.present range).result := rfl
  rw [Passes, passes_iff, carried, Comparison.result_dateBetween_eq_true, Value.position?_present]

/-- What comes of comparing two dates depends on their instants alone, events included. -/
theorem compare_dated {op : Operator} {test : Int → Int → Bool}
    (carries : Comparison.carryOut op = Comparison.dated test) (blind : op.seesMissing = false)
    (a b : Value) : op.compare a b =
      match a.instant?, b.instant? with
      | .ok (some i), .ok (some j) => ⟨test i.position j.position, []⟩
      | .ok _, .ok _ => ⟨false, [.notADate]⟩
      | _, _ => ⟨false, [.comparisonFailed]⟩ := by
  rw [compare, taken, blind, carries, Comparison.dated, if_neg Bool.false_ne_true,
    Value.instant?_present]
  cases a.instant? with
  | error fault => rfl
  | ok left =>
    cases b.instant? with
    | error fault => cases left <;> rfl
    | ok right => cases left <;> cases right <;> rfl

theorem compare_before (a b : Value) : before.compare a b = after.compare b a := by
  have forth : Comparison.carryOut before = Comparison.dated fun m n => decide (m < n) := rfl
  have back : Comparison.carryOut after = Comparison.dated fun m n => decide (n < m) := rfl
  rw [compare_dated forth rfl, compare_dated back rfl]
  cases a.instant? with
  | error fault =>
    cases b.instant? with
    | error fault' => rfl
    | ok right => cases right <;> rfl
  | ok left =>
    cases b.instant? with
    | error fault => cases left <;> rfl
    | ok right => cases left <;> cases right <;> rfl

theorem before_irrefl (a : Value) : ¬before.Passes a a := by
  rw [passes_before]
  rintro ⟨m, n, here, there, less⟩
  obtain rfl := Option.some.inj (here.symm.trans there)
  exact Int.lt_irrefl m less

theorem before_trans {c : Value} (first : before.Passes a b) (second : before.Passes b c) :
    before.Passes a c := by
  rw [passes_before] at first second ⊢
  obtain ⟨m, n, ha, hb, less⟩ := first
  obtain ⟨n', k, hb', hc, less'⟩ := second
  obtain rfl := Option.some.inj (hb.symm.trans hb')
  exact ⟨m, k, ha, hc, less.trans less'⟩

/-- A range of dates holds the instants that are not before its start and not after its end; none
when it runs backwards. -/
theorem passes_dateBetween_iff {start stop : Value} (pair : range.sequence? = some [start, stop])
    (first : start.IsInstant) (last : stop.IsInstant) :
    dateBetween.Passes a range ↔
      a.IsInstant ∧ ¬before.Passes a start ∧ ¬after.Passes a stop := by
  obtain ⟨s, hs⟩ := Value.isInstant_iff.1 first
  obtain ⟨t, ht⟩ := Value.isInstant_iff.1 last
  rw [passes_before, passes_after, passes_dateBetween, Value.isInstant_iff]
  constructor
  · rintro ⟨start', stop', s', t', n, pair', hs', ht', ha, lower, upper⟩
    obtain ⟨rfl, rfl⟩ : start = start' ∧ stop = stop' := by simpa [pair] using pair'
    refine ⟨⟨n, ha⟩, ?_, ?_⟩
    · rintro ⟨m, s'', ha', hs'', less⟩
      obtain rfl := Option.some.inj (ha.symm.trans ha')
      obtain rfl := Option.some.inj (hs'.symm.trans hs'')
      exact Int.not_lt.2 lower less
    · rintro ⟨m, t'', ha', ht'', less⟩
      obtain rfl := Option.some.inj (ha.symm.trans ha')
      obtain rfl := Option.some.inj (ht'.symm.trans ht'')
      exact Int.not_lt.2 upper less
  · rintro ⟨⟨n, ha⟩, notBefore, notAfter⟩
    refine ⟨start, stop, s, t, n, pair, hs, ht, ha, ?_, ?_⟩
    · exact Int.not_lt.1 fun less => notBefore ⟨n, s, ha, hs, less⟩
    · exact Int.not_lt.1 fun less => notAfter ⟨n, t, ha, ht, less⟩

/-- **Operators that compare dates agree on one line of time.**  To be before a value is to have it
after oneself.  That is a strict order: nothing is before itself, and of two values not both are
before the other.  A value lies in a range of two instants when it is an instant, not before the
first and not after the second.  No comparison with what is no instant passes, and none with a range
that is no pair of instants. -/
theorem dates_ordered :
    (∀ a b : Value, before.compare a b = after.compare b a) ∧
    (∀ a : Value, ¬before.Passes a a) ∧
    (∀ a b c : Value, before.Passes a b → before.Passes b c → before.Passes a c) ∧
    (∀ a b : Value, ¬(before.Passes a b ∧ before.Passes b a)) ∧
    (∀ a range start stop : Value, range.sequence? = some [start, stop] → start.IsInstant →
      stop.IsInstant → (dateBetween.Passes a range ↔
        a.IsInstant ∧ ¬before.Passes a start ∧ ¬after.Passes a stop)) ∧
    (∀ a b : Value, before.Passes a b ∨ after.Passes a b → a.IsInstant ∧ b.IsInstant) ∧
    ∀ a range : Value, dateBetween.Passes a range → a.IsInstant ∧
      ∃ start stop, range.sequence? = some [start, stop] ∧ start.IsInstant ∧ stop.IsInstant := by
  refine ⟨compare_before, before_irrefl, fun a b c => before_trans, ?_, ?_, ?_, ?_⟩
  · rintro a b ⟨first, second⟩
    exact before_irrefl a (before_trans first second)
  · intro a range start stop pair first last
    exact passes_dateBetween_iff pair first last
  · intro a b
    simp only [passes_before, passes_after, Value.isInstant_iff]
    rintro (⟨m, n, ha, hb, -⟩ | ⟨m, n, ha, hb, -⟩)
    · exact ⟨⟨m, ha⟩, n, hb⟩
    · exact ⟨⟨m, ha⟩, n, hb⟩
  · intro a range
    simp only [passes_dateBetween, Value.isInstant_iff]
    rintro ⟨start, stop, s, t, n, pair, hs, ht, ha, -, -⟩
    exact ⟨⟨n, ha⟩, start, stop, pair, ⟨s, hs⟩, t, ht⟩

/-- A text with an offset writes the last hour before a date, and a number of seconds is the first
second of it; the date lies between the two. -/
theorem dates_ordered_mixed :
    let early : Value := .text "2024-01-01T02:00:00+03:00"
    let midnight : Value := .date ⟨2024, 1, 1, by decide⟩
    let late : Value := .int 1704067201
    before.Passes early midnight ∧ before.Passes midnight late ∧ before.Passes early late ∧
      ¬before.Passes late early ∧ (after.compare late early).value = true ∧
      dateBetween.Passes midnight (.tuple [early, late]) ∧
      ¬before.Passes (.text "soon") late := by
  intro early midnight late
  obtain ⟨turned, -, chained, exclusive, ranges, instants, -⟩ := dates_ordered
  have first : before.Passes early midnight := by
    show (before.compare _ _).value = true
    decide +kernel
  have second : before.Passes midnight late := by
    show (before.compare _ _).value = true
    decide +kernel
  have both := chained early midnight late first second
  obtain ⟨written, here⟩ := instants early midnight (.inl first)
  obtain ⟨-, counted⟩ := instants midnight late (.inl second)
  have lies := (ranges midnight (.tuple [early, late]) early late rfl written counted).2
    ⟨here, fun less => exclusive _ _ ⟨less, first⟩, fun more => exclusive midnight late
      ⟨second, by rwa [Passes, turned]⟩⟩
  refine ⟨first, second, both, fun less => exclusive _ _ ⟨both, less⟩, turned early late ▸ both,
    lies, fun soon => ?_⟩
  have unread : (Value.text "soon").instant? = .ok none := by decide +kernel
  obtain ⟨⟨i, found⟩, -⟩ := instants _ _ (.inl soon)
  cases unread.symm.trans found

end Operator
end Eligibility
