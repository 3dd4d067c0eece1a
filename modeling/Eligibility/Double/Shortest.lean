/-
# Shortest decimal of a double

A double is written with the fewest digits that read back to it. For one, two, … seventeen
digits the two grid points around the exact value are tried; the first grid with a point that
reads back wins, and of two such points the nearer one, a tie going to the even digit. Every
candidate is read back before it is accepted, so the text of a double always reads back to it.
-/

import Eligibility.Double.Basic
import Eligibility.Text.Digit

namespace Eligibility
namespace Double

/-- Whether `digits * 10 ^ place` reads back as the given number of units. -/
def readsBack (units digits : Nat) (place : Int) : Bool :=
  match ofDecimal false digits place with
  | .finite _ n _ => n == units
  | _ => false

/-- A number of units over the worth of one step of the grid `10 ^ place`. -/
def overPlace (units : Nat) (place : Int) : Nat × Nat :=
  if place ≥ 0 then (units, unit * Nat.pow 10 place.toNat)
  else (units * Nat.pow 10 (-place).toNat, unit)

/-- The point of the grid `10 ^ place` that reads back and lies nearest. -/
def gridPoint? (units : Nat) (place : Int) : Option Nat :=
  let (num, den) := overPlace units place
  let below := num / den
  let above := below + 1
  match readsBack units below place, readsBack units above place with
  | true, true => some (roundHalfEven num den)
  | true, false => some below
  | false, true => some above
  | false, false => none

/-- The decimal exponent of the leading digit. -/
def leadingExponent (units : Nat) : Int :=
  ((Nat.toDigits 10 (Nat.pow 10 400 * units / unit)).length : Int) - 401

/-- A number without its trailing zeros, and how many there were. -/
def stripZeros (n : Nat) : Nat × Nat :=
  if _h : n ≠ 0 ∧ n % 10 = 0 then
    let (core, count) := stripZeros (n / 10)
    (core, count + 1)
  else (n, 0)
  termination_by n
  decreasing_by omega

/-- Digits and exponent of the exact expansion. -/
def expansion (units : Nat) : Nat × Int := (Nat.pow 5 1074 * units, -1074)

/-- The point of the first of seventeen grids that reads back; the exact expansion, which always
does, stands behind them. -/
def accepted (units : Nat) : Nat × Int :=
  let top := leadingExponent units
  ((List.range 17).findSome? fun (k : Nat) =>
    (gridPoint? units (top - k)).map fun digits => (digits, top - k)).getD (expansion units)

/-- Digits and exponent of the shortest decimal. -/
def shortest (units : Nat) : Nat × Int :=
  let found := accepted units
  let stripped := stripZeros found.1
  (stripped.1, found.2 + stripped.2)

/-- How a shortest decimal is laid out: a leading exponent from `positionalFrom` to just under
`positionalBelow` is written with a point in place, any other with an exponent of at least
`exponentWidth` digits. -/
structure Layout where
  positionalFrom : Int
  positionalBelow : Int
  exponentWidth : Nat

/-- The layout of doubles in texts: positional from `0.0001` up to, but not including, ten to the
sixteenth. -/
def Layout.usual : Layout := ⟨-4, 16, 2⟩

/-- The layout of doubles in stored results: positional from `0.00001`, with short exponents. -/
def Layout.stored : Layout := ⟨-5, 16, 1⟩

/-- A positive decimal in a layout. A whole number keeps one zero after its point. -/
def Layout.write (layout : Layout) (digits : Nat) (exponent : Int) : List Char :=
  let shown := Nat.toDigits 10 digits
  let point := shown.length + exponent
  let lead := point - 1
  if layout.positionalFrom ≤ lead && lead < layout.positionalBelow then
    if point ≤ 0 then '0' :: '.' :: (List.replicate (-point).toNat '0' ++ shown)
    else if exponent ≥ 0 then shown ++ List.replicate exponent.toNat '0' ++ ['.', '0']
    else shown.take point.toNat ++ '.' :: shown.drop point.toNat
  else
    let mantissa :=
      match shown with
      | [] => []
      | [d] => [d]
      | d :: rest => d :: '.' :: rest
    let sign := if lead < 0 then '-' else '+'
    mantissa ++ 'e' :: sign :: (Text.padded 10 layout.exponentWidth lead.natAbs).toList

/-- The text of a double in a layout: the shortest decimal that reads back to it. -/
def textIn (layout : Layout) : Double → String
  | .nan => "nan"
  | .infinite negative => if negative then "-inf" else "inf"
  | .finite negative units _ =>
    let body :=
      if units = 0 then ['0', '.', '0']
      else
        let (digits, exponent) := shortest units
        layout.write digits exponent
    String.ofList (if negative then '-' :: body else body)

/-- The text of a double. -/
def text (x : Double) : String := x.textIn .usual

end Double
end Eligibility
