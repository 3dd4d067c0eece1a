/-
# Loose equality

The equality of rules compares what can be compared as numbers as numbers, so the text `"3.0"`
equals the integer 3.  A boolean equals only the same boolean.  What is not compared as numbers is
compared as values, and that may come upon a signaling NaN.
-/

import Eligibility.Value.Number
import Eligibility.Value.Equal

namespace Eligibility
namespace Value

/-- Whether two values are equal for a rule: equal booleans, equal numbers, or, when one of them
has no number, equal values. -/
def looselyEqual (a b : Value) : Except NumberFault Bool :=
  match a, b with
  | bool x, bool y => .ok (x == y)
  | bool _, _ => .ok false
  | _, bool _ => .ok false
  | _, _ => do
    let left ← a.number?
    let right ← b.number?
    match left, right with
    | some x, some y => return x.eq y
    | _, _ => if a.signals b then .error .signalingCompared else return a.same b

/-- Whether a value equals one of the others, which are tried in order. -/
def equalsAny (a : Value) : List Value → Except NumberFault Bool
  | [] => .ok false
  | b :: rest => do if ← looselyEqual a b then return true else equalsAny a rest

end Value
end Eligibility
