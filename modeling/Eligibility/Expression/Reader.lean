/-
# Reading expressions

The grammar, in which *not* binds tightest and *or* least, and chains associate to the left:

    disjunction := conjunction (OR conjunction)*
    conjunction := negation (AND negation)*
    negation    := NOT negation | atom
    atom        := LETTER | '(' disjunction ')'

Each rule is a function from tokens to a tree and the tokens that follow.  The functions call
one another in a circle, so they carry a bound on the depth of calls, which the number of
tokens gives and which is never used up.  No other bound is modelled: an expression is read however
deep it nests, also where a machine would run out of calls within calls.
-/

import Eligibility.Expression.Basic
import Eligibility.Expression.Token

namespace Eligibility
namespace Expression

/-- A tree and the tokens that follow it. -/
abbrev Reading := Except Fault (Expression × List Token)

mutual

/-- Conjunctions with *or* between them. -/
def readDisjunction : (depth : Nat) → List Token → Reading
  | 0, _ => .error .unexpectedEnd
  | depth + 1, tokens => do
    let (first, rest) ← readConjunction depth tokens
    moreDisjuncts depth first rest

/-- What follows a conjunction: further ones, joined to what stands before. -/
def moreDisjuncts : (depth : Nat) → (left : Expression) → List Token → Reading
  | 0, _, _ => .error .unexpectedEnd
  | depth + 1, left, tokens =>
    match tokens with
    | ⟨.or, _, _⟩ :: rest => do
      let (right, rest) ← readConjunction depth rest
      moreDisjuncts depth (.or left right) rest
    | _ => .ok (left, tokens)

/-- Negations with *and* between them. -/
def readConjunction : (depth : Nat) → List Token → Reading
  | 0, _ => .error .unexpectedEnd
  | depth + 1, tokens => do
    let (first, rest) ← readNegation depth tokens
    moreConjuncts depth first rest

/-- What follows a negation: further ones, joined to what stands before. -/
def moreConjuncts : (depth : Nat) → (left : Expression) → List Token → Reading
  | 0, _, _ => .error .unexpectedEnd
  | depth + 1, left, tokens =>
    match tokens with
    | ⟨.and, _, _⟩ :: rest => do
      let (right, rest) ← readNegation depth rest
      moreConjuncts depth (.and left right) rest
    | _ => .ok (left, tokens)

/-- An atom, perhaps denied any number of times. -/
def readNegation : (depth : Nat) → List Token → Reading
  | 0, _ => .error .unexpectedEnd
  | depth + 1, tokens =>
    match tokens with
    | ⟨.not, _, _⟩ :: rest => do
      let (operand, rest) ← readNegation depth rest
      .ok (.not operand, rest)
    | _ => readAtom depth tokens

/-- A letter, or a disjunction in parentheses. -/
def readAtom : (depth : Nat) → List Token → Reading
  | 0, _ => .error .unexpectedEnd
  | depth + 1, tokens =>
    match tokens with
    | [] => .error .unexpectedEnd
    | ⟨.letter c, _, _⟩ :: rest => .ok (.letter c, rest)
    | ⟨.opening, _, position⟩ :: rest => do
      let (inner, rest) ← readDisjunction depth rest
      match rest with
      | ⟨.closing, _, _⟩ :: rest => .ok (inner, rest)
      | _ => .error (.unbalanced position)
    | token :: _ => .error (.unexpectedToken token.text token.position)

end

/-- A depth of calls that reading so many tokens does not use up. -/
def depthFor (tokens : List Token) : Nat := 4 * tokens.length + 4

/-- The expression that tokens write. -/
def ofTokens (tokens : List Token) : Except Fault Expression := do
  if tokens.isEmpty then .error .empty
  else
    let (e, rest) ← readDisjunction (depthFor tokens) tokens
    match rest with
    | [] => .ok e
    | token :: _ => .error (.unexpectedToken token.text token.position)

/-- The expression that a text writes. -/
def ofText (s : String) : Except Fault Expression := do ofTokens (← tokenize s)

/-- The letters of an expression that have no truth, in alphabetical order. -/
def undefinedLetters (e : Expression) (values : List (Char × Bool)) : List Char :=
  e.letters.filter fun c => !values.any (·.1 == c)

/-- The truth of the letters that have one; the others count as false. -/
def truthOf (values : List (Char × Bool)) (c : Char) : Bool :=
  ((values.find? (·.1 == c)).map (·.2)).getD false

/-- The truth of an expression all of whose letters have one. -/
def truth (e : Expression) (values : List (Char × Bool)) : Except Fault Bool :=
  match undefinedLetters e values with
  | [] => .ok (e.eval (truthOf values))
  | letters => .error (.undefinedLetters letters)

/-- The truth of what a text writes; a blank text writes nothing. -/
def truthOfText (s : String) (values : List (Char × Bool)) : Except Fault Bool := do
  if s.toList.all Text.isBlank then .error .missing
  else (← ofText s).truth values

end Expression
end Eligibility
