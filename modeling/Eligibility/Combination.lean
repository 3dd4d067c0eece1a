/-
# Combinations

How the outcomes of several rules, or of several groups, become one.  Seven combinators count
the outcomes that are true; the eighth evaluates a boolean expression, in which the letters
stand for the outcomes in order.  A combination that is not set up properly does not pass, and
says why.
-/

import Eligibility.Expression.Reader
import Eligibility.Value.Written

namespace Eligibility

/-- A way to combine outcomes. -/
inductive Combinator where
  | all
  | any
  | min
  | majority
  | boolean
  | nand
  | nor
  | xor
  deriving DecidableEq

namespace Combinator

/-- Every combinator, in the order of their listing. -/
def listing : List Combinator := [all, any, min, majority, boolean, nand, nor, xor]

/-- The word for a combinator. -/
def text : Combinator → String
  | all => "all"
  | any => "any"
  | min => "min"
  | majority => "majority"
  | boolean => "boolean"
  | nand => "nand"
  | nor => "nor"
  | xor => "xor"

/-- Further spellings. -/
def aliases : List (String × Combinator) :=
  [("and", all), ("or", any), ("min_n", min), ("expression", boolean)]

/-- The combinator that a text spells, in any casing and with surrounding space. -/
def ofText? (s : String) : Option Combinator :=
  let key := Text.lowerAscii (Text.trim s)
  match listing.find? (·.text == key) with
  | some found => some found
  | none => (aliases.find? (·.1 == key)).map (·.2)

/-- The combinator that a value spells: only a text spells one. -/
def ofValue? (v : Value) : Option Combinator := v.asText? >>= ofText?

end Combinator

namespace Combination

/-- Why a combination has no outcome. -/
inductive Fault where
  | unknown (shown : String)
  | badMinimum
  | tooManyOperands
  | expression (fault : Expression.Fault)
  deriving DecidableEq

/-- The letters that can stand for outcomes. -/
def alphabet : List Char := "abcdefghijklmnopqrstuvwxyz".toList

/-- The wording of a fault. -/
def Fault.message : Fault → String
  | unknown shown => "Unknown combination logic: " ++ shown
  | badMinimum => "MIN combination requires min_required >= 1"
  | tooManyOperands => s!"Boolean expressions support at most {alphabet.length} operands"
  | expression fault => fault.message

/-- The outcomes under their letters. -/
def lettered (flags : List Bool) : List (Char × Bool) := alphabet.zip flags

/-- A number of outcomes that have to be true, at least one. -/
def minimum? : Value → Option Nat
  | .int n => if n ≥ 1 then some n.toNat else none
  | _ => none

/-- The truth of an expression over the outcomes. An absent expression is missing. -/
def byExpression (flags : List Bool) (expression : Value) : Except Fault Bool :=
  if flags.length > alphabet.length then .error .tooManyOperands
  else if expression.isNull then .error (.expression .missing)
  else (Expression.truthOfText expression.display (lettered flags)).mapError .expression

/-- The outcome of a combinator. -/
def reduce (combinator : Combinator) (flags : List Bool) (minimum expression : Value) :
    Except Fault Bool :=
  let passed := flags.count true
  match combinator with
  | .all => .ok (passed == flags.length)
  | .any => .ok (decide (0 < passed))
  | .min =>
    match minimum? minimum with
    | some least => .ok (decide (least ≤ passed))
    | none => .error .badMinimum
  | .majority => .ok (decide (flags.length < 2 * passed))
  | .nand => .ok (passed != flags.length)
  | .nor => .ok (passed == 0)
  | .xor => .ok (passed == 1)
  | .boolean => byExpression flags expression

end Combination

/-- The outcome of combining flags as a value says. -/
def combine (combination : Value) (flags : List Bool) (minimum expression : Value) :
    Except Combination.Fault Bool :=
  match Combinator.ofValue? combination with
  | some combinator => Combination.reduce combinator flags minimum expression
  | none => .error (.unknown combination.display)

namespace Combination

/-- Whether a combination passes; without an outcome it does not. -/
def passed : Except Fault Bool → Bool
  | .ok flag => flag
  | .error _ => false

/-- What is wrong with a combination, when something is. -/
def error? : Except Fault Bool → Option String
  | .ok _ => none
  | .error fault => some fault.message

end Combination
end Eligibility
