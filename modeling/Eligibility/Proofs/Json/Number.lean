/-
# Numbers of JSON read back

A number is read to its end as long as nothing stands behind it that could belong to it
(`EndsNumber`).  The digits of an integer read back to the integer, and a double reads back from
every layout (`readAtom?_double`): a layout only moves the point and zeros, which do not change
what the decimal is worth.
-/

import Eligibility.Json.Reader
import Eligibility.Json.Writer
import Eligibility.Proofs.Double.ReadBack
import Eligibility.Proofs.Text.Digits

namespace Eligibility
namespace Json

open Text (valuesOf NoDigit noDigit_cons)

/-- Nothing comes first that could go on with a number. -/
def EndsNumber (rest : List Char) : Prop :=
  ∀ c ∈ rest.head?, c.isDigit = false ∧ c ≠ '.' ∧ c ≠ 'e' ∧ c ≠ 'E'

/-- The digits of a whole part: at least one, and no zero in front of another. -/
structure Whole (cs : List Char) : Prop where
  digits : ∀ c ∈ cs, c.isDigit = true
  nonempty : cs ≠ []
  lead : cs.head? = some '0' → cs = ['0']

theorem Whole.zero : Whole ['0'] := ⟨by simp, by simp, fun _ => rfl⟩

theorem whole_toDigits (n : Nat) : Whole (Nat.toDigits 10 n) := by
  refine ⟨fun c => Text.isDigit_of_mem_toDigits, Nat.toDigits_ne_nil, fun lead => ?_⟩
  by_cases zero : n = 0
  · simp [zero]
  · obtain ⟨c, cs, shown, head⟩ := Text.toDigits_head zero
    simp [shown, head] at lead

/-- A number that is not zero keeps its whole part when more digits follow. -/
theorem Whole.append {n : Nat} (nonzero : n ≠ 0) {cs : List Char}
    (digits : ∀ c ∈ cs, c.isDigit = true) : Whole (Nat.toDigits 10 n ++ cs) := by
  obtain ⟨c, shown, eq, head⟩ := Text.toDigits_head nonzero
  refine ⟨fun d member => ?_, by simp [eq], fun lead => ?_⟩
  · rcases List.mem_append.1 member with member | member
    · exact Text.isDigit_of_mem_toDigits member
    · exact digits d member
  · simp [eq, head] at lead

theorem EndsNumber.noDigit {rest : List Char} (stop : EndsNumber rest) : NoDigit rest :=
  fun c member => (stop c member).1

theorem eq_zero_of_isDigit {c : Char} (digit : c.isDigit = true) (zero : c.toNat - 48 = 0) :
    c = '0' := by
  have lower : 48 ≤ c.toNat := by
    simp only [Char.isDigit, Bool.and_eq_true, decide_eq_true_eq] at digit
    exact digit.1
  apply Char.toNat_inj.1
  show c.toNat = 48
  omega

theorem readWhole?_append {whole rest : List Char} (h : Whole whole) (stop : NoDigit rest) :
    readWhole? (whole ++ rest) = some (valuesOf whole, rest) := by
  unfold readWhole?
  rw [Text.readDigits_append h.digits stop]
  cases whole with
  | nil => exact absurd rfl h.nonempty
  | cons c cs =>
    have lead : c.toNat - 48 = 0 → cs = [] := fun zero => by
      have := h.lead (by rw [eq_zero_of_isDigit (h.digits c (by simp)) zero]; rfl)
      simp at this
      exact this.2
    simp only [valuesOf, List.map_cons]
    split
    · next eq => simp at eq
    · next eq =>
      simp only [Prod.mk.injEq, List.cons.injEq] at eq
      simp [lead eq.1.1] at eq
    · rfl

theorem readFraction?_point {fraction rest : List Char}
    (digits : ∀ c ∈ fraction, c.isDigit = true) (nonempty : fraction ≠ []) (stop : NoDigit rest) :
    readFraction? ('.' :: (fraction ++ rest)) = some (some (valuesOf fraction), rest) := by
  simp only [readFraction?, Text.readDigits_append digits stop]
  cases fraction with
  | nil => exact absurd rfl nonempty
  | cons c cs => rfl

theorem readFraction?_none {rest : List Char} (stop : ∀ c ∈ rest.head?, c ≠ '.') :
    readFraction? rest = some (none, rest) := by
  unfold readFraction?
  split
  · simp at stop
  · rfl

theorem readExponent?_none {rest : List Char} (stop : ∀ c ∈ rest.head?, c ≠ 'e' ∧ c ≠ 'E') :
    readExponent? rest = some (none, rest) := by
  cases rest with
  | nil => rfl
  | cons c cs => simp [readExponent?, stop c rfl]

theorem readExponent?_signed (negative : Bool) {digits rest : List Char}
    (all : ∀ c ∈ digits, c.isDigit = true) (nonempty : digits ≠ []) (stop : NoDigit rest) :
    readExponent? ('e' :: (if negative then '-' else '+') :: (digits ++ rest)) =
      some (some (Text.withSign negative (Text.ofDigits (valuesOf digits))), rest) := by
  have sign : Text.readSign ((if negative then '-' else '+') :: (digits ++ rest)) =
      (negative, digits ++ rest) := by
    cases negative <;> rfl
  simp only [readExponent?, Char.reduceEq, decide_true, Bool.true_or, if_true, sign]
  rw [Text.readDigits_append all stop]
  cases digits with
  | nil => exact absurd rfl nonempty
  | cons c cs => rfl

/-! ### Whole numbers -/

theorem readNumber?_whole (negative : Bool) (n : Nat) {rest : List Char} (stop : EndsNumber rest) :
    readNumber? negative (Nat.toDigits 10 n ++ rest) =
      some (int (Text.withSign negative n), rest) := by
  unfold readNumber?
  rw [readWhole?_append (whole_toDigits n) stop.noDigit]
  simp only [Option.bind_eq_bind, Option.bind_some,
    readFraction?_none fun c member => (stop c member).2.1,
    readExponent?_none fun c member => (stop c member).2.2, Text.ofDigits_toDigits]
  rfl

/-! ### Doubles -/

theorem readNumber?_point (negative : Bool) {whole fraction rest : List Char} (h : Whole whole)
    (digits : ∀ c ∈ fraction, c.isDigit = true) (nonempty : fraction ≠ [])
    (stop : EndsNumber rest) :
    readNumber? negative (whole ++ '.' :: (fraction ++ rest)) =
      some (double (.ofDecimal negative (Text.ofDigits (valuesOf (whole ++ fraction)))
        (-(fraction.length : Int))), rest) := by
  unfold readNumber?
  rw [readWhole?_append h (noDigit_cons rfl)]
  simp only [Option.bind_eq_bind, Option.bind_some,
    readFraction?_point digits nonempty stop.noDigit,
    readExponent?_none fun c member => (stop c member).2.2, Text.valuesOf_append]
  simp

theorem readNumber?_exponent (sign negative : Bool) {whole exponent rest : List Char}
    (h : Whole whole) (digits : ∀ c ∈ exponent, c.isDigit = true) (nonempty : exponent ≠ [])
    (stop : EndsNumber rest) :
    readNumber? sign
        (whole ++ 'e' :: (if negative then '-' else '+') :: (exponent ++ rest)) =
      some (double (.ofDecimal sign (Text.ofDigits (valuesOf whole))
        (Text.withSign negative (Text.ofDigits (valuesOf exponent)))), rest) := by
  unfold readNumber?
  rw [readWhole?_append h (noDigit_cons rfl)]
  simp only [Option.bind_eq_bind, Option.bind_some]
  rw [readFraction?_none (by simp)]
  simp only [Option.bind_some, readExponent?_signed negative digits nonempty stop.noDigit]
  simp

theorem readNumber?_pointExponent (sign negative : Bool) {whole fraction exponent rest : List Char}
    (h : Whole whole) (digits : ∀ c ∈ fraction, c.isDigit = true) (some : fraction ≠ [])
    (digits' : ∀ c ∈ exponent, c.isDigit = true) (some' : exponent ≠ []) (stop : EndsNumber rest) :
    readNumber? sign (whole ++ '.' :: (fraction ++
        'e' :: (if negative then '-' else '+') :: (exponent ++ rest))) =
      Option.some (double (.ofDecimal sign (Text.ofDigits (valuesOf (whole ++ fraction)))
        (Text.withSign negative (Text.ofDigits (valuesOf exponent)) - fraction.length)), rest) := by
  unfold readNumber?
  rw [readWhole?_append h (noDigit_cons rfl)]
  simp only [Option.bind_eq_bind, Option.bind_some,
    readFraction?_point digits some (noDigit_cons (c := 'e') rfl),
    readExponent?_signed negative digits' some' stop.noDigit, Text.valuesOf_append]
  simp

/-- The digits of a number that is not zero, cut anywhere behind the first. -/
theorem whole_take {n count : Nat} (nonzero : n ≠ 0) (some : 0 < count) :
    Whole ((Nat.toDigits 10 n).take count) := by
  obtain ⟨c, cs, shown, head⟩ := Text.toDigits_head nonzero
  obtain ⟨count, rfl⟩ : ∃ k, count = k + 1 := ⟨count - 1, by omega⟩
  refine ⟨fun d member => ?_, by simp [shown], fun lead => ?_⟩
  · exact Text.isDigit_of_mem_toDigits (List.mem_of_mem_take member)
  · simp [shown, head] at lead

/-- A whole number with `zeros` behind its digits, and one more behind the point. -/
theorem readNumber?_wholeDouble (negative : Bool) {digits : Nat} (nonzero : digits ≠ 0)
    (zeros : Nat) {rest : List Char} (stop : EndsNumber rest) :
    readNumber? negative
        (Nat.toDigits 10 digits ++ List.replicate zeros '0' ++ '.' :: (['0'] ++ rest)) =
      some (double (.ofDecimal negative digits zeros), rest) := by
  have all : ∀ c ∈ List.replicate zeros '0', c.isDigit = true := fun c member => by
    rw [List.eq_of_mem_replicate member]
    rfl
  rw [readNumber?_point negative (Whole.append nonzero all) (by simp) (by simp) stop,
    List.append_assoc, ← List.replicate_succ', Text.ofDigits_append_zeros, Text.ofDigits_toDigits,
    ← Double.ofDecimal_mul_pow negative digits (zeros + 1) zeros]
  congr 4
  simp only [List.length_singleton]
  omega

/-- **A decimal is read back from every layout**, as the double nearest to it. -/
theorem readNumber?_write (layout : Double.Layout) (negative : Bool) {digits : Nat}
    (nonzero : digits ≠ 0) (exponent : Int) {rest : List Char} (stop : EndsNumber rest) :
    readNumber? negative (layout.write digits exponent ++ rest) =
      some (double (.ofDecimal negative digits exponent), rest) := by
  have all : ∀ c ∈ Nat.toDigits 10 digits, c.isDigit = true :=
    fun c => Text.isDigit_of_mem_toDigits
  have long : 0 < (Nat.toDigits 10 digits).length := Nat.length_toDigits_pos
  unfold Double.Layout.write
  dsimp only
  split
  · split
    · next point =>
      have zeros : ∀ c ∈ List.replicate
          (-((Nat.toDigits 10 digits).length + exponent)).toNat '0' ++ Nat.toDigits 10 digits,
          c.isDigit = true := fun c member => by
        rcases List.mem_append.1 member with zero | digit
        · rw [List.eq_of_mem_replicate zero]
          rfl
        · exact all c digit
      rw [List.cons_append, List.cons_append, ← List.singleton_append (x := '0'),
        readNumber?_point negative Whole.zero zeros (by simp) stop]
      rw [List.singleton_append, ← List.cons_append, ← List.replicate_succ,
        Text.ofDigits_zeros_append, Text.ofDigits_toDigits]
      congr 4
      simp only [List.length_append, List.length_replicate]
      omega
    · split
      · next whole =>
        have := readNumber?_wholeDouble negative nonzero exponent.toNat stop
        rw [show ((exponent.toNat : Nat) : Int) = exponent by omega] at this
        simpa using this
      · next point fraction =>
        rw [List.append_assoc, List.cons_append, readNumber?_point negative
          (whole_take nonzero (by omega)) (fun c member => all c (List.mem_of_mem_drop member))
          (fun none => ?_) stop, List.take_append_drop, Text.ofDigits_toDigits]
        · congr 4
          simp only [List.length_drop]
          omega
        · have := congrArg List.length none
          simp only [List.length_drop, List.length_nil] at this
          omega
  · obtain ⟨c, cs, shown, head⟩ := Text.toDigits_head nonzero
    have one : Whole [c] := by
      have := whole_take nonzero Nat.zero_lt_one
      rwa [shown] at this
    generalize lead : ((Nat.toDigits 10 digits).length : Int) + exponent - 1 = order
    have sign : (if order < 0 then '-' else '+') = if decide (order < 0) then '-' else '+' := by
      simp
    have padded := @Text.isDigit_of_mem_padded layout.exponentWidth order.natAbs
    cases cs with
    | nil =>
      have value := Text.ofDigits_toDigits digits
      rw [shown] at lead value ⊢
      have := readNumber?_exponent negative (decide (order < 0)) one (fun c => padded)
        (Text.padded_ne_nil 10 layout.exponentWidth order.natAbs) stop
      simp only [Text.ofDigits_padded, Text.withSign_natAbs, value] at this
      simp only [List.length_singleton] at lead
      rw [show order = exponent by omega] at this ⊢
      simpa [sign] using this
    | cons d ds =>
      have value := Text.ofDigits_toDigits digits
      rw [shown] at lead value all ⊢
      have more : ∀ c ∈ d :: ds, c.isDigit = true := fun c member => all c (by simp [member])
      have := readNumber?_pointExponent negative (decide (order < 0)) one more
        (by simp) (fun c => padded)
        (Text.padded_ne_nil 10 layout.exponentWidth order.natAbs) stop
      simp only [Text.ofDigits_padded, Text.withSign_natAbs, List.singleton_append, value] at this
      simp only [List.length_cons] at lead this
      rw [show order - ((ds.length + 1 : Nat) : Int) = exponent by omega] at this
      simpa [sign] using this

/-! ### Words and numbers -/

/-- What is read as a number begins with a digit. -/
theorem digit_of_readNumber? {negative : Bool} {cs : List Char} {read : Json × List Char}
    (found : readNumber? negative cs = some read) : ∃ c rest, cs = c :: rest ∧ c.isDigit = true := by
  cases cs with
  | nil => simp [readNumber?, readWhole?, Text.readDigits] at found
  | cons c rest =>
    refine ⟨c, rest, rfl, ?_⟩
    by_contra none
    simp [readNumber?, readWhole?, Text.readDigits, none] at found

theorem readAtom?_number {cs : List Char} {read : Json × List Char}
    (found : readNumber? false cs = some read) : readAtom? cs = some read := by
  obtain ⟨c, rest, rfl, digit⟩ := digit_of_readNumber? found
  unfold readAtom?
  split <;> simp_all

theorem readAtom?_minus {cs : List Char} {read : Json × List Char}
    (found : readNumber? true cs = some read) : readAtom? ('-' :: cs) = some read := by
  obtain ⟨c, rest, rfl, digit⟩ := digit_of_readNumber? found
  unfold readAtom?
  split <;> simp_all

theorem readAtom?_signed {negative : Bool} {cs : List Char} {read : Json × List Char}
    (found : readNumber? negative cs = some read) :
    readAtom? (if negative then '-' :: cs else cs) = some read := by
  cases negative with
  | false => simpa using readAtom?_number found
  | true => simpa using readAtom?_minus found

theorem readAtom?_int (n : Int) {rest : List Char} (stop : EndsNumber rest) :
    readAtom? ((toString n).toList ++ rest) = some (int n, rest) := by
  cases n with
  | ofNat n =>
    have := readNumber?_whole false n stop
    rw [Text.toList_ofNat]
    exact readAtom?_number this
  | negSucc n =>
    have := readNumber?_whole true (n + 1) stop
    rw [Text.toList_negSucc]
    exact readAtom?_minus this

theorem ofDecimal_zero (negative : Bool) (exponent : Int) :
    Double.ofDecimal negative 0 exponent = .finite negative 0 Double.exact_zero :=
  if_pos rfl

theorem shortest_ne_zero {units : Nat} (nonzero : units ≠ 0) (exact : Double.Exact units) :
    (Double.shortest units).1 ≠ 0 := by
  intro none
  have back := Double.ofDecimal_shortest false nonzero exact
  rw [none, ofDecimal_zero] at back
  exact nonzero (Double.finite.inj back).2.symm

/-- The shortest decimal is given a name, since nothing here may compute it. -/
theorem textIn_finite (layout : Double.Layout) (negative : Bool) {units digits : Nat}
    {exponent : Int} (exact : Double.Exact units)
    (found : Double.shortest units = (digits, exponent)) :
    (Double.finite negative units exact).textIn layout = String.ofList
      (let body := if units = 0 then ['0', '.', '0'] else layout.write digits exponent
      if negative then '-' :: body else body) := by
  rw [Double.textIn]
  rw [found]

/-- **A double is read back**, the words for infinities and for no number included. -/
theorem readAtom?_double (style : Style) (x : Double) {rest : List Char} (stop : EndsNumber rest) :
    readAtom? (style.writeDouble x ++ rest) = some (double x, rest) := by
  cases x with
  | nan => rfl
  | infinite negative => cases negative <;> rfl
  | finite negative units exact =>
    obtain ⟨body, written, read⟩ : ∃ body,
        style.writeDouble (.finite negative units exact) =
          (if negative then '-' :: body else body) ∧
        readNumber? negative (body ++ rest) =
          some (double (.finite negative units exact), rest) := by
      have written : style.writeDouble (.finite negative units exact) =
          ((Double.finite negative units exact).textIn style.layout).toList := rfl
      rw [textIn_finite style.layout negative exact (Prod.eta _).symm,
        String.toList_ofList] at written
      refine ⟨_, written, ?_⟩
      split
      · next zero =>
        subst zero
        have : readNumber? negative (['0'] ++ '.' :: (['0'] ++ rest)) = _ :=
          readNumber?_point negative Whole.zero (by simp) (by simp) stop
        rwa [show Text.ofDigits (valuesOf (['0'] ++ ['0'])) = 0 from rfl, ofDecimal_zero] at this
      · next nonzero =>
        rw [readNumber?_write style.layout negative (shortest_ne_zero nonzero exact)
          (Double.shortest units).2 stop, Double.ofDecimal_shortest negative nonzero exact]
    rw [written]
    have := readAtom?_signed read
    cases negative with
    | false => exact this
    | true => exact this

end Json
end Eligibility
