/-
# Tokens of expressions

The text of an expression falls into parentheses and words, with space between them where one
likes.  A word is a run of ASCII letters and low lines: a single small letter stands for itself,
and the three keywords are recognised in any casing.  Nothing else may occur.
-/

import Eligibility.Expression.Fault
import Eligibility.Text.Blank
import Eligibility.Text.Case

namespace Eligibility
namespace Expression

/-- What a token is. -/
inductive Kind where
  | letter (c : Char)
  | and
  | or
  | not
  | opening
  | closing
  deriving DecidableEq

/-- A token: its kind, its text and where it starts. -/
structure Token where
  kind : Kind
  text : String
  position : Nat
  deriving DecidableEq

/-- Whether a character belongs to a word. -/
def isWordChar (c : Char) : Bool := c.isAlpha || c == '_'

/-- The kind of a word: a keyword in any casing, or a single small letter. -/
def wordKind? (word : List Char) : Option Kind :=
  match word.map Char.toLower with
  | ['a', 'n', 'd'] => some .and
  | ['o', 'r'] => some .or
  | ['n', 'o', 't'] => some .not
  | _ =>
    match word with
    | [c] => if c.isLower then some (.letter c) else none
    | _ => none

theorem length_dropWhile_le {α : Type} (p : α → Bool) (xs : List α) :
    (xs.dropWhile p).length ≤ xs.length := by
  induction xs with
  | nil => simp
  | cons x xs ih =>
    rw [List.dropWhile_cons]
    split
    · exact Nat.le_succ_of_le ih
    · exact Nat.le_refl _

/-- The tokens of characters that start at a position. -/
def tokensFrom (position : Nat) (cs : List Char) : Except Fault (List Token) :=
  match cs with
  | [] => .ok []
  | c :: rest =>
    if Text.isBlank c then tokensFrom (position + 1) rest
    else if c = '(' then do
      return ⟨.opening, "(", position⟩ :: (← tokensFrom (position + 1) rest)
    else if c = ')' then do
      return ⟨.closing, ")", position⟩ :: (← tokensFrom (position + 1) rest)
    else if isWordChar c then
      let word := c :: rest.takeWhile isWordChar
      match wordKind? word with
      | some kind => do
        return ⟨kind, String.ofList word, position⟩ ::
          (← tokensFrom (position + word.length) (rest.dropWhile isWordChar))
      | none => .error (.unknownToken (String.ofList word) position)
    else .error (.unknownToken (String.ofList [c]) position)
  termination_by cs.length
  decreasing_by
    all_goals simp_wf
    all_goals have := length_dropWhile_le isWordChar rest
    all_goals omega

/-- The tokens of a text. -/
def tokenize (s : String) : Except Fault (List Token) := tokensFrom 0 s.toList

end Expression
end Eligibility
