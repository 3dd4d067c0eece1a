/-
# Decimals read back

The text of a finite decimal is a whole part, a fraction behind its point and a power of ten, the
last two when there are any (`magnitudeText_parts`).  Each part is read up to the next, and the
parts make up the coefficient and the exponent again.  Different decimals have different texts.
-/

import Eligibility.Decimal
import Eligibility.Proofs.Text.Digits

namespace Eligibility
namespace Decimal

open Text (ofDigits valuesOf readDigits readFraction readExponent? NoDigit noDigit_cons)

/-- A fraction, behind a point unless it is empty. -/
def pointText : List Char → List Char
  | [] => []
  | fraction => '.' :: fraction

/-- A power of ten, unless it is zero. -/
def powerText (power : Int) : List Char :=
  if power = 0 then [] else 'E' :: (if power < 0 then '-' else '+') :: Nat.toDigits 10 power.natAbs

/-- A whole part and a fraction, of digits, and a power that together make up a decimal. -/
structure Parts (coefficient : Nat) (exponent : Int) where
  whole : List Char
  fraction : List Char
  power : Int
  digits : ∀ c ∈ whole ++ fraction, c.isDigit = true
  nonempty : whole ≠ []
  coefficient_eq : ofDigits (valuesOf (whole ++ fraction)) = coefficient
  exponent_eq : power - fraction.length = exponent

namespace Parts

variable {coefficient : Nat} {exponent : Int}

/-- The parts one behind the other. -/
def text (parts : Parts coefficient exponent) : List Char :=
  parts.whole ++ (pointText parts.fraction ++ powerText parts.power)

end Parts

theorem isDigit_of_mem_zeros {count : Nat} {c : Char} (member : c ∈ List.replicate count '0') :
    c.isDigit = true := by
  rw [List.eq_of_mem_replicate member]
  rfl

theorem append_powerText (body : List Char) (power : Int) :
    (if power = 0 then body
      else body ++ 'E' :: (if power < 0 then '-' else '+') :: Nat.toDigits 10 power.natAbs) =
      body ++ powerText power := by
  rw [powerText]
  split
  · rw [List.append_nil]
  · rfl

theorem pointText_of_ne_nil {fraction : List Char} (some : fraction ≠ []) :
    pointText fraction = '.' :: fraction := by
  cases fraction with
  | nil => exact (some rfl).elim
  | cons c cs => rfl

/-- **The text of a finite decimal is in parts.** -/
theorem magnitudeText_parts (coefficient : Nat) (exponent : Int) :
    ∃ parts : Parts coefficient exponent, magnitudeText coefficient exponent = parts.text := by
  have long : 0 < (Nat.toDigits 10 coefficient).length := Nat.length_toDigits_pos
  have value : ofDigits (valuesOf (Nat.toDigits 10 coefficient)) = coefficient :=
    Text.ofDigits_toDigits coefficient
  have digit (c : Char) (member : c ∈ Nat.toDigits 10 coefficient) : c.isDigit = true :=
    Text.isDigit_of_mem_toDigits member
  unfold magnitudeText
  generalize Nat.toDigits 10 coefficient = shown at long value digit ⊢
  simp only [append_powerText]
  -- the point stands at the end of the digits or behind the first one
  have places : (if exponent ≤ 0 && (shown.length : Int) + exponent > -6
        then (shown.length : Int) + exponent else 1) = shown.length + exponent ∧ exponent ≤ 0 ∨
      (if exponent ≤ 0 && (shown.length : Int) + exponent > -6
        then (shown.length : Int) + exponent else 1) = 1 := by
    split
    · next positional =>
      simp only [Bool.and_eq_true, decide_eq_true_eq] at positional
      exact .inl ⟨rfl, positional.1⟩
    · exact .inr rfl
  generalize (if exponent ≤ 0 && (shown.length : Int) + exponent > -6
    then (shown.length : Int) + exponent else 1) = point at places ⊢
  split
  · next front =>
    refine ⟨⟨['0'], List.replicate (-point).toNat '0' ++ shown, shown.length + exponent - point,
      fun c member => ?_, by simp, ?_, ?_⟩, ?_⟩
    · rw [List.singleton_append, ← List.cons_append, ← List.replicate_succ,
        List.mem_append] at member
      exact member.elim isDigit_of_mem_zeros (digit c)
    · rw [List.singleton_append, ← List.cons_append, ← List.replicate_succ,
        Text.ofDigits_zeros_append, value]
    · simp only [List.length_append, List.length_replicate]
      omega
    · rw [Parts.text, pointText_of_ne_nil]
      · rfl
      · exact List.append_ne_nil_of_right_ne_nil _ (List.ne_nil_of_length_pos long)
  · split
    · next whole =>
      have none : (point - shown.length).toNat = 0 := by omega
      refine ⟨⟨shown, [], shown.length + exponent - point, by simpa using digit,
        List.ne_nil_of_length_pos long, by rw [List.append_nil, value], ?_⟩, ?_⟩
      · simp only [List.length_nil]
        omega
      · rw [none, List.replicate_zero, List.append_assoc]
        rfl
    · next inside =>
      have some : shown.drop point.toNat ≠ [] := List.ne_nil_of_length_pos (by
        rw [List.length_drop]
        omega)
      refine ⟨⟨shown.take point.toNat, shown.drop point.toNat, shown.length + exponent - point,
        by rwa [List.take_append_drop], List.ne_nil_of_length_pos ?_,
        by rw [List.take_append_drop, value], ?_⟩, ?_⟩
      · rw [List.length_take]
        omega
      · rw [List.length_drop]
        omega
      · rw [Parts.text, pointText_of_ne_nil some, List.append_assoc]

namespace Parts

variable {coefficient : Nat} {exponent : Int}

theorem noDigit_powerText (power : Int) : NoDigit (powerText power) := by
  rw [powerText]
  split
  · nofun
  · exact noDigit_cons rfl

theorem readExponent?_powerText (power : Int) : readExponent? (powerText power) = some power := by
  have digits {c : Char} : c ∈ Nat.toDigits 10 power.natAbs → c.isDigit = true :=
    Text.isDigit_of_mem_toDigits
  have read := Text.readDigits_append (fun c => digits) (show NoDigit [] from nofun)
  rw [List.append_nil] at read
  rw [powerText]
  split
  · next zero => rw [zero]; rfl
  · have sign : Text.readSign ((if power < 0 then '-' else '+') :: Nat.toDigits 10 power.natAbs) =
        (decide (power < 0), Nat.toDigits 10 power.natAbs) := by
      split
      · next below => rw [decide_eq_true below]; rfl
      · next above => rw [decide_eq_false above]; rfl
    have some : (valuesOf (Nat.toDigits 10 power.natAbs)).isEmpty = false := by
      simp [valuesOf]
    have letter : (decide ('E' = 'e') || decide ('E' = 'E')) = true := rfl
    rw [readExponent?, sign, if_pos letter]
    simp only [read, some, Text.ofDigits_toDigits]
    rw [if_neg (by simp), Text.withSign_natAbs]

theorem readFraction_pointText {fraction : List Char}
    (digits : ∀ c ∈ fraction, c.isDigit = true) (power : Int) :
    readFraction (pointText fraction ++ powerText power) =
      (valuesOf fraction, powerText power) := by
  cases fraction with
  | nil =>
    rw [pointText, List.nil_append, powerText]
    split
    · rfl
    · rfl
  | cons c cs =>
    show readDigits (c :: cs ++ powerText power) = _
    exact Text.readDigits_append digits (noDigit_powerText power)

theorem noDigit_pointText (fraction : List Char) (power : Int) :
    NoDigit (pointText fraction ++ powerText power) := by
  cases fraction with
  | nil => exact noDigit_powerText power
  | cons c cs => exact noDigit_cons rfl

/-- **The parts read back.** -/
theorem text_inj {coefficient' : Nat} {exponent' : Int} {parts : Parts coefficient exponent}
    {parts' : Parts coefficient' exponent'} (same : parts.text = parts'.text) :
    coefficient = coefficient' ∧ exponent = exponent' := by
  have front (c) (member : c ∈ parts.whole) := parts.digits c (List.mem_append_left _ member)
  have front' (c) (member : c ∈ parts'.whole) := parts'.digits c (List.mem_append_left _ member)
  have behind (c) (member : c ∈ parts.fraction) := parts.digits c (List.mem_append_right _ member)
  have behind' (c) (member : c ∈ parts'.fraction) :=
    parts'.digits c (List.mem_append_right _ member)
  have whole := Text.readDigits_append front (noDigit_pointText parts.fraction parts.power)
  rw [text, text] at same
  rw [same, Text.readDigits_append front' (noDigit_pointText _ _), Prod.mk.injEq] at whole
  have fraction := readFraction_pointText behind parts.power
  rw [← whole.2, readFraction_pointText behind', Prod.mk.injEq] at fraction
  have power := readExponent?_powerText parts.power
  rw [← fraction.2, readExponent?_powerText, Option.some.injEq] at power
  have length := congrArg List.length fraction.1
  rw [Text.length_valuesOf, Text.length_valuesOf] at length
  constructor
  · rw [← parts.coefficient_eq, ← parts'.coefficient_eq, Text.valuesOf_append,
      Text.valuesOf_append, whole.1, fraction.1]
  · rw [← parts.exponent_eq, ← parts'.exponent_eq, power, length]

/-- A whole part begins with a digit. -/
theorem head_text (parts : Parts coefficient exponent) :
    ∃ c cs, parts.text = c :: cs ∧ c.isDigit = true := by
  obtain ⟨c, cs, whole⟩ := List.exists_cons_of_ne_nil parts.nonempty
  refine ⟨c, _, by rw [text, whole, List.cons_append], ?_⟩
  exact parts.digits c (by simp [whole])

end Parts

theorem magnitudeText_inj {m n : Nat} {e f : Int}
    (same : magnitudeText m e = magnitudeText n f) : m = n ∧ e = f := by
  obtain ⟨parts, shown⟩ := magnitudeText_parts m e
  obtain ⟨parts', shown'⟩ := magnitudeText_parts n f
  exact Parts.text_inj (by rw [← shown, ← shown', same])

theorem head_magnitudeText (coefficient : Nat) (exponent : Int) :
    ∃ c cs, magnitudeText coefficient exponent = c :: cs ∧ c.isDigit = true := by
  obtain ⟨parts, shown⟩ := magnitudeText_parts coefficient exponent
  rw [shown]
  exact parts.head_text

/-- The sign of a decimal. -/
def isNegative : Decimal → Bool
  | .finite negative _ _ => negative
  | .infinite negative => negative
  | .nan negative _ _ => negative

/-- The letters of a NaN. -/
def nanText (signaling : Bool) : List Char := (if signaling then "sNaN" else "NaN").toList

/-- The text of a decimal without its sign. -/
def bareText : Decimal → List Char
  | .finite _ coefficient exponent => magnitudeText coefficient exponent
  | .infinite _ => "Infinity".toList
  | .nan _ signaling payload => nanText signaling ++ payload.toList

/-- A sign in front of a text. -/
def signed (negative : Bool) (body : List Char) : List Char :=
  if negative then '-' :: body else body

theorem toList_text (d : Decimal) : d.text.toList = signed d.isNegative d.bareText := by
  cases d with
  | finite negative coefficient exponent => rw [text, String.toList_ofList]; rfl
  | infinite negative =>
    cases negative with
    | false => rfl
    | true => rfl
  | nan negative signaling payload =>
    rw [text, String.toList_append, String.toList_append]
    cases negative with
    | false => rfl
    | true => rfl

theorem head_bareText (d : Decimal) : ∃ c cs, d.bareText = c :: cs ∧ c ≠ '-' := by
  cases d with
  | finite _ coefficient exponent =>
    obtain ⟨c, cs, shown, digit⟩ := head_magnitudeText coefficient exponent
    refine ⟨c, cs, shown, ?_⟩
    rintro rfl
    cases digit
  | infinite => exact ⟨_, _, rfl, by decide⟩
  | nan _ signaling =>
    cases signaling with
    | false => exact ⟨_, _, rfl, by decide⟩
    | true => exact ⟨_, _, rfl, by decide⟩

theorem signed_inj {negative negative' : Bool} {d e : Decimal}
    (same : signed negative d.bareText = signed negative' e.bareText) :
    negative = negative' ∧ d.bareText = e.bareText := by
  obtain ⟨c, cs, shown, other⟩ := head_bareText d
  obtain ⟨c', cs', shown', other'⟩ := head_bareText e
  rw [shown, shown'] at same ⊢
  cases negative with
  | false =>
    cases negative' with
    | false => exact ⟨rfl, same⟩
    | true => exact (other (List.cons.inj same).1).elim
  | true =>
    cases negative' with
    | false => exact (other' (List.cons.inj same).1.symm).elim
    | true => exact ⟨rfl, (List.cons.inj same).2⟩

theorem bareText_finite_ne {coefficient : Nat} {exponent : Int} {c : Char} {cs : List Char}
    (letter : c.isDigit = false) : magnitudeText coefficient exponent ≠ c :: cs := by
  obtain ⟨d, ds, shown, digit⟩ := head_magnitudeText coefficient exponent
  intro same
  rw [shown] at same
  rw [(List.cons.inj same).1, letter] at digit
  cases digit

theorem nanText_append_inj {signaling signaling' : Bool} {cs ds : List Char}
    (same : nanText signaling ++ cs = nanText signaling' ++ ds) :
    signaling = signaling' ∧ cs = ds := by
  cases signaling with
  | false =>
    cases signaling' with
    | false => exact ⟨rfl, List.append_cancel_left same⟩
    | true => cases (List.cons.inj same).1
  | true =>
    cases signaling' with
    | false => cases (List.cons.inj same).1
    | true => exact ⟨rfl, List.append_cancel_left same⟩

/-- **Different decimals have different texts.** -/
theorem text_inj {d e : Decimal} (same : d.text = e.text) : d = e := by
  have texts := congrArg String.toList same
  rw [toList_text, toList_text] at texts
  obtain ⟨sign, bare⟩ := signed_inj texts
  clear same texts
  cases d with
  | finite negative coefficient exponent =>
    cases e with
    | finite negative' coefficient' exponent' =>
      obtain ⟨rfl, rfl⟩ := magnitudeText_inj bare
      rw [show negative = negative' from sign]
    | infinite => exact (bareText_finite_ne rfl bare).elim
    | nan _ signaling =>
      cases signaling with
      | false => exact (bareText_finite_ne rfl bare).elim
      | true => exact (bareText_finite_ne rfl bare).elim
  | infinite negative =>
    cases e with
    | finite => exact (bareText_finite_ne rfl bare.symm).elim
    | infinite negative' => rw [show negative = negative' from sign]
    | nan _ signaling =>
      cases signaling with
      | false => cases (List.cons.inj bare).1
      | true => cases (List.cons.inj bare).1
  | nan negative signaling payload =>
    cases e with
    | finite =>
      cases signaling with
      | false => exact (bareText_finite_ne rfl bare.symm).elim
      | true => exact (bareText_finite_ne rfl bare.symm).elim
    | infinite =>
      cases signaling with
      | false => cases (List.cons.inj bare).1
      | true => cases (List.cons.inj bare).1
    | nan negative' signaling' payload' =>
      obtain ⟨rfl, payloads⟩ := nanText_append_inj bare
      rw [show negative = negative' from sign, String.toList_inj.1 payloads]

end Decimal
end Eligibility
