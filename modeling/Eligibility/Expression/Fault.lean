/-
# Faults of expressions

Why a text is no expression, or an expression has no value.  Positions count characters from
zero.
-/

namespace Eligibility
namespace Expression

/-- What is wrong with an expression. -/
inductive Fault where
  | missing
  | empty
  | unknownToken (text : String) (position : Nat)
  | unexpectedToken (text : String) (position : Nat)
  | unbalanced (position : Nat)
  | unexpectedEnd
  | undefinedLetters (letters : List Char)
  deriving DecidableEq

/-- The wording of a fault. -/
def Fault.message : Fault → String
  | missing => "Boolean expression is missing"
  | empty => "Empty boolean expression"
  | unknownToken text position => s!"Unknown token '{text}' at position {position}"
  | unexpectedToken text position => s!"Unexpected token '{text}' at position {position}"
  | unbalanced position => s!"Unbalanced parenthesis at position {position}"
  | unexpectedEnd => "Unexpected end of expression"
  | undefinedLetters letters =>
    "Undefined identifiers: " ++ ", ".intercalate (letters.map fun c => String.ofList [c])

end Expression
end Eligibility
