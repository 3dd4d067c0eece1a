/-
# Loose equality is symmetric and transitive

For a rule two values are equal in one of three ways (`looselyEqual_eq_ok_true`): as booleans, as
numbers, or, when neither has a number, as values.  No value is equal to others in two of these
ways, since equal values have a number both or neither (`number?_isSome_of_same`): whether a number
is turned into a finite double depends on its worth alone.  So the ways do not mix along a chain,
and each is symmetric and transitive by itself (`Operator.eq_symm_trans`).
-/

import Eligibility.Proofs.Comparison
import Eligibility.Proofs.Criteria.Magnitude
import Eligibility.Proofs.Value.Same

namespace Eligibility

/-! ### Worth and doubles -/

/-- Whether a worth is that of some finite double, or near enough to one. -/
def Quantity.fits : Quantity → Bool
  | .finite negative coefficient exponent =>
    (Double.ofDecimal negative coefficient exponent).isFinite
  | _ => false

theorem Quantity.fits_reduced (negative : Bool) (coefficient : Nat) (exponent : Int) :
    (reduced negative coefficient exponent).fits =
      (Double.ofDecimal negative coefficient exponent).isFinite := by
  unfold reduced
  split
  · next zero =>
    subst zero
    rfl
  · exact congrArg Double.isFinite
      (@Double.ofDecimal_stripZeros negative (coefficient, exponent) _ rfl)

theorem Double.isFinite_ofInt (n : Int) : (ofInt n).isFinite = (Quantity.ofInt n).fits := by
  rw [Quantity.ofInt, Quantity.fits_reduced]
  rcases Nat.eq_zero_or_pos n.natAbs with zero | pos
  · rw [Int.natAbs_eq_zero.1 zero]
    decide +kernel
  · rw [ofDecimal_eq_ofUnits _ (Nat.ne_of_gt pos)]
    simp [ofInt, quotientOf]

theorem Double.isFinite_ofDecimal_zero (negative : Bool) {digits : Nat} (zero : digits = 0)
    (exponent : Int) : (ofDecimal negative digits exponent).isFinite = true := by
  rw [ofDecimal, if_pos zero]
  rfl

theorem Double.isFinite_eq_fits (x : Double) : x.isFinite = (Quantity.ofDouble x).fits := by
  cases x with
  | nan => rfl
  | infinite negative => rfl
  | finite negative units exact =>
    rw [Quantity.ofDouble, Quantity.fits_reduced]
    rcases Nat.eq_zero_or_pos units with zero | pos
    · exact (isFinite_ofDecimal_zero negative (Nat.mul_eq_zero.2 (.inl zero)) _).symm
    · have swapped (scale : Nat) : units * scale = scale * units := Nat.mul_comm ..
      have back := congrArg isFinite (ofDecimal_expansion negative (Nat.ne_of_gt pos) exact)
      unfold expansion at back
      dsimp only at back
      rw [swapped]
      exact back.symm

namespace Value

theorem isSome_finite? (x : Double) : (finite? x).isSome = x.isFinite := by
  unfold finite?
  cases x.isFinite with
  | false => rfl
  | true => rfl

/-- Whether a number is turned into a finite double depends on its worth alone. -/
theorem number?_isSome {v : Value} {q : Quantity} {read : Option Double}
    (worth : v.quantity? = some q) (plain : ∀ b, v ≠ bool b) (came : v.number? = .ok read) :
    read.isSome = q.fits := by
  cases v with
  | bool b => exact absurd rfl (plain b)
  | int n =>
    obtain rfl := Option.some.inj worth
    obtain ⟨x, whole, same⟩ := bind_eq_ok.1 came
    obtain rfl := Except.ok.inj same
    rcases Double.ofInt?_cases n with ⟨_, failed⟩ | ⟨_, rounded⟩
    · cases failed.symm.trans whole
    · obtain rfl := Except.ok.inj (rounded.symm.trans whole)
      rw [isSome_finite?, Double.isFinite_ofInt]
  | double x =>
    obtain rfl := Option.some.inj worth
    obtain rfl := Except.ok.inj came
    rw [isSome_finite?, Double.isFinite_eq_fits]
  | decimal d =>
    obtain rfl := Option.some.inj worth
    obtain ⟨x, read, same⟩ := bind_eq_ok.1 came
    obtain rfl := Except.ok.inj same
    rw [isSome_finite?]
    cases d with
    | finite negative coefficient exponent =>
      obtain rfl := Except.ok.inj read
      exact (Quantity.fits_reduced ..).symm
    | infinite negative =>
      obtain rfl := Except.ok.inj read
      rfl
    | nan negative signaling payload =>
      cases signaling with
      | true => cases read
      | false =>
        obtain rfl := Except.ok.inj read
        rfl
  | _ => cases worth

/-- Whether what decides the equality of a value has a finite double. -/
def Atom.fits : Atom → Bool
  | .number q => q.fits
  | .text s => (Double.ofText? (Text.trim s) >>= finite?).isSome
  | _ => false

theorem number?_isSome_of_atom? {v : Value} {k : Atom} {read : Option Double}
    (decided : v.atom? = some k) (plain : ∀ b, v ≠ bool b) (came : v.number? = .ok read) :
    read.isSome = k.fits := by
  cases v with
  | bool | int | double | decimal =>
    obtain ⟨-, rfl⟩ := worthOf_eq_some.1 decided
    exact number?_isSome rfl plain came
  | list | tuple | set | frozenSet | map => cases decided
  | _ =>
    obtain rfl := Option.some.inj decided
    obtain rfl := Except.ok.inj came
    rfl

/-- **Equal values have a number both or neither.** -/
theorem number?_isSome_of_same {a b : Value} {left right : Option Double}
    (equal : same a b = true) (plain : ∀ x, a ≠ bool x) (plain' : ∀ x, b ≠ bool x)
    (readLeft : a.number? = .ok left) (readRight : b.number? = .ok right) :
    left.isSome = right.isSome := by
  cases same_iff.1 equal with
  | atom decides decided =>
    obtain ⟨k, own⟩ := Option.ne_none_iff_exists'.1 decides
    rw [number?_isSome_of_atom? own plain readLeft,
      number?_isSome_of_atom? (decided ▸ own) plain' readRight]
  | list | tuple | map =>
    obtain rfl := Except.ok.inj readLeft
    obtain rfl := Except.ok.inj readRight
    rfl
  | set found found' =>
    rcases asSet?_eq_some.1 found with rfl | rfl
    all_goals
      obtain rfl := Except.ok.inj readLeft
      rcases asSet?_eq_some.1 found' with rfl | rfl
      all_goals
        obtain rfl := Except.ok.inj readRight
        rfl

/-! ### Ways to be equal -/

/-- How two values come to be equal for a rule. -/
inductive LooselySame : Value → Value → Prop
  | bool (x : Bool) : LooselySame (bool x) (bool x)
  | number {a b : Value} {x y : Double} (left : a.number? = .ok (some x))
    (right : b.number? = .ok (some y)) (same : x.eq y) : LooselySame a b
  | value {a b : Value} (plain : ∀ x, a ≠ .bool x) (plain' : ∀ x, b ≠ .bool x)
    (left : a.number? = .ok none) (right : b.number? = .ok none) (same : a.same b = true) :
    LooselySame a b

namespace LooselySame

variable {a b c : Value}

theorem symm (equal : LooselySame a b) : LooselySame b a := by
  cases equal with
  | bool x => exact .bool x
  | number left right same => exact .number right left (Double.eq_comm _ _ ▸ same)
  | value plain plain' left right same => exact .value plain' plain right left (same_symm same)

/-- The ways to be equal do not mix along a chain. -/
theorem trans (first : LooselySame a b) (second : LooselySame b c) : LooselySame a c := by
  cases first with
  | bool x =>
    cases second with
    | bool => exact .bool x
    | number left => cases left
    | value plain => exact absurd rfl (plain x)
  | number left right same =>
    cases second with
    | bool => cases right
    | number left' right' same' =>
      cases right.symm.trans left'
      exact .number left right' (Double.eq_trans same same')
    | value _ _ left' => cases right.symm.trans left'
  | value plain plain' left right same =>
    cases second with
    | bool x => exact absurd rfl (plain' x)
    | number left' => cases right.symm.trans left'
    | value _ plain'' _ right' same' =>
      exact .value plain plain'' left right' (same_trans same same')

end LooselySame

theorem LooselySame.of_looselyEqual {a b : Value} (came : looselyEqual a b = .ok true) :
    LooselySame a b := by
  unfold looselyEqual at came
  split at came
  · next x y =>
    obtain rfl : x = y := eq_of_beq (Except.ok.inj came)
    exact .bool x
  · cases came
  · cases came
  · next plain plain' _ =>
    obtain ⟨left, readLeft, came⟩ := bind_eq_ok.1 came
    obtain ⟨right, readRight, came⟩ := bind_eq_ok.1 came
    split at came
    · exact .number readLeft readRight (Except.ok.inj came)
    · next unread =>
      split at came
      · cases came
      have equal : same a b = true := Except.ok.inj came
      have alike := number?_isSome_of_same equal plain plain' readLeft readRight
      cases left with
      | none =>
        have none := Option.isSome_eq_false_iff.1 alike.symm
        obtain rfl := Option.isNone_iff_eq_none.1 none
        exact .value plain plain' readLeft readRight equal
      | some x =>
        obtain ⟨y, rfl⟩ := Option.isSome_iff_exists.1 alike.symm
        exact (unread x y rfl rfl).elim

/-- Numbers are compared as numbers. -/
theorem looselyEqual_of_numbers {a b : Value} {x y : Double} (left : a.number? = .ok (some x))
    (right : b.number? = .ok (some y)) : looselyEqual a b = .ok (x.eq y) := by
  unfold looselyEqual
  split
  · cases left
  · cases left
  · cases right
  · rw [left, right]
    rfl

theorem LooselySame.looselyEqual {a b : Value} (equal : LooselySame a b) :
    looselyEqual a b = .ok true := by
  cases equal with
  | bool x => exact congrArg Except.ok (beq_self_eq_true x)
  | number left right same => rw [looselyEqual_of_numbers left right, same]
  | value plain plain' left right same =>
    unfold Value.looselyEqual
    split
    · exact absurd rfl (plain _)
    · exact absurd rfl (plain _)
    · exact absurd rfl (plain' _)
    · have quiet := signals_of_same same
      rw [left, right]
      show (if a.signals b then _ else _) = _
      rw [quiet, same]
      rfl

/-- **What loose equality means.** -/
theorem looselyEqual_eq_ok_true {a b : Value} : looselyEqual a b = .ok true ↔ LooselySame a b :=
  ⟨LooselySame.of_looselyEqual, LooselySame.looselyEqual⟩

end Value

namespace Operator

open Value (LooselySame)

theorem compare_eq_iff {a b : Value} :
    (eq.compare a b).value = true ↔ LooselySame a.present b := by
  rw [passes_iff, ← Value.looselyEqual_eq_ok_true]
  exact mapError_eq_ok

theorem present_eq {v : Value} (there : v ≠ .missing) : v.present = v := by
  cases v with
  | missing => exact absurd rfl there
  | _ => rfl

/-- **Equality is symmetric and transitive.**  Between values that are there, of whatever kinds, it
makes no difference which of the two is expected, and what equals a third equals it at once. -/
theorem eq_symm_trans {a b : Value} (there : a ≠ .missing) (there' : b ≠ .missing) (c : Value) :
    (eq.compare a b).value = (eq.compare b a).value ∧
      ((eq.compare a b).value = true → (eq.compare b c).value = true →
        (eq.compare a c).value = true) := by
  have turned : ∀ {v w : Value}, v ≠ .missing → w ≠ .missing → (eq.compare v w).value = true →
      (eq.compare w v).value = true := by
    intro v w here here' equal
    rw [compare_eq_iff, present_eq here] at equal
    rw [compare_eq_iff, present_eq here']
    exact equal.symm
  refine ⟨Bool.eq_iff_iff.2 ⟨turned there there', turned there' there⟩, fun first second => ?_⟩
  rw [compare_eq_iff] at first second ⊢
  rw [present_eq there'] at second
  exact first.trans second

/-- A text, an integer and a decimal are equal as numbers; a list with a set in it equals one with a
frozen set, whose items are worth the same and stand in another order. -/
theorem eq_symm_trans_mixed :
    ((eq.compare (.int 3) (.text " 3.0 ")).value = true ∧
      (eq.compare (.text " 3.0 ") (.decimal (.finite false 300 (-2)))).value = true) ∧
    (eq.compare (.list [.null, .frozenSet [.decimal (.finite false 3 1), .text "a"]])
      (.list [.null, .set [.text "a", .int 30]])).value = true := by
  have numbers : (eq.compare (.text " 3.0 ") (.int 3)).value = true := by decide +kernel
  have numbers' : (eq.compare (.int 3) (.decimal (.finite false 300 (-2)))).value = true := by
    decide +kernel
  have lists : (eq.compare (.list [.null, .set [.text "a", .int 30]])
      (.list [.null, .frozenSet [.decimal (.finite false 3 1), .text "a"]])).value = true := by
    have worth : (Quantity.ofInt 30).same (.ofDecimal (.finite false 3 1)) = true := by
      simp [Quantity.ofInt, Quantity.ofDecimal, Quantity.reduced, Double.stripZeros, Quantity.same]
    refine compare_eq_iff.2 (.value (fun _ => by simp [Value.present]) (fun _ => by simp) rfl rfl ?_)
    simp [Value.present, Value.same, Value.sameItems, Value.within, Value.covers, Value.anySame,
      Value.sameAtom, Value.quantity?, worth]
  have there (s : String) : Value.text s ≠ .missing := by simp
  have there' (n : Int) : Value.int n ≠ .missing := by simp
  have there'' (items : List Value) : Value.list items ≠ .missing := by simp
  obtain ⟨turned, chained⟩ := eq_symm_trans (there " 3.0 ") (there' 3)
    (.decimal (.finite false 300 (-2)))
  obtain ⟨turned', -⟩ := eq_symm_trans (there'' [.null, .set [.text "a", .int 30]])
    (there'' [.null, .frozenSet [.decimal (.finite false 3 1), .text "a"]]) .null
  exact ⟨⟨turned ▸ numbers, chained numbers numbers'⟩, turned' ▸ lists⟩

end Operator
end Eligibility
