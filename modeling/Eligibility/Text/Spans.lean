/-
# Character sets by their boundaries

A set of characters that comes in spans is written as the ascending list of code points at
which membership flips: the first code point of a span, the first one after it, the first of
the next span, and so on. A code point is in the set when an odd number of the boundaries are
at or below it.
-/

namespace Eligibility
namespace Text

/-- Whether a code point lies in one of the spans that the boundaries mark. -/
def inside : List Nat → Nat → Bool
  | [], _ => false
  | bound :: rest, code => if code < bound then false else !inside rest code

end Text
end Eligibility
