/-
# Reading expressions with a cursor

The rules of the grammar once more, each as a function from a place in the tokens to a tree and the
place behind it.  A rule looks at the token at the cursor (`peek`) and steps over it (`advance`);
the tokens themselves stay as they are, and a step where no token is left is a failure of its own
(`Halt.overrun`).  No bound on the depth of calls is needed: whoever calls a rule again has stepped
over a token or has gone down to a rule that binds tighter.

The readers that run come to the same on the tokens from the cursor on (`Agrees`), as long as their
depth is four times the number of those tokens and four more.  So that bound is never used up, no
step is taken past the end, and what is read depends on nothing before the cursor
(`Nonterminal.parse_within`).
-/

import Eligibility.Expression.Reader
import Mathlib.Data.List.Basic

namespace Eligibility
namespace Expression

variable {tokens : List Token}

/-! ### The rules -/

/-- A place in tokens: in front of one of them, or at the end. -/
abbrev Cursor (tokens : List Token) := Fin (tokens.length + 1)

/-- Why no tree is read: the tokens are at fault, or the cursor was to step over a token where there
is none. -/
inductive Halt where
  | fault (fault : Fault)
  | overrun
  deriving DecidableEq

/-- A tree, and where the cursor stands then, which is no earlier than some place. -/
abbrev Parsed (tokens : List Token) (least : Nat) :=
  Except Halt (Expression × {next : Cursor tokens // least ≤ next.val})

/-- The cursor stands no earlier than an earlier place either. -/
def Parsed.weaken {least less : Nat} (lower : less ≤ least) :
    Parsed tokens least → Parsed tokens less
  | .ok (e, ⟨next, behind⟩) => .ok (e, ⟨next, Nat.le_trans lower behind⟩)
  | .error halt => .error halt

/-- The token at the cursor. -/
def peek (cursor : Cursor tokens) : Option Token := tokens[cursor.val]?

/-- Step over the token at the cursor. -/
def advance (cursor : Cursor tokens) :
    Except Halt {next : Cursor tokens // cursor.val + 1 ≤ next.val} :=
  if inside : cursor.val < tokens.length then
    .ok ⟨⟨cursor.val + 1, Nat.succ_lt_succ inside⟩, Nat.le_refl _⟩
  else .error .overrun

mutual

/-- Conjunctions with *or* between them. -/
def parseDisjunction (cursor : Cursor tokens) : Parsed tokens (cursor.val + 1) := do
  let (first, ⟨middle, _⟩) ← parseConjunction cursor
  (parseDisjuncts first middle).weaken (by omega)
  termination_by (tokens.length - cursor.val, 3)

/-- What follows a conjunction: further ones, joined to what stands before. -/
def parseDisjuncts (left : Expression) (cursor : Cursor tokens) : Parsed tokens cursor.val := do
  match peek cursor with
  | some ⟨.or, _, _⟩ => do
    let ⟨behind, _⟩ ← advance cursor
    let (right, ⟨middle, _⟩) ← parseConjunction behind
    (parseDisjuncts (.or left right) middle).weaken (by omega)
  | _ => return (left, ⟨cursor, Nat.le_refl _⟩)
  termination_by (tokens.length - cursor.val, 0)

/-- Negations with *and* between them. -/
def parseConjunction (cursor : Cursor tokens) : Parsed tokens (cursor.val + 1) := do
  let (first, ⟨middle, _⟩) ← parseNegation cursor
  (parseConjuncts first middle).weaken (by omega)
  termination_by (tokens.length - cursor.val, 2)

/-- What follows a negation: further ones, joined to what stands before. -/
def parseConjuncts (left : Expression) (cursor : Cursor tokens) : Parsed tokens cursor.val := do
  match peek cursor with
  | some ⟨.and, _, _⟩ => do
    let ⟨behind, _⟩ ← advance cursor
    let (right, ⟨middle, _⟩) ← parseNegation behind
    (parseConjuncts (.and left right) middle).weaken (by omega)
  | _ => return (left, ⟨cursor, Nat.le_refl _⟩)
  termination_by (tokens.length - cursor.val, 0)

/-- An atom, perhaps denied any number of times. -/
def parseNegation (cursor : Cursor tokens) : Parsed tokens (cursor.val + 1) := do
  match peek cursor with
  | some ⟨.not, _, _⟩ => do
    let ⟨behind, _⟩ ← advance cursor
    let (operand, ⟨next, _⟩) ← parseNegation behind
    return (.not operand, ⟨next, by omega⟩)
  | _ => parseAtom cursor
  termination_by (tokens.length - cursor.val, 1)

/-- A letter, or a disjunction in parentheses. -/
def parseAtom (cursor : Cursor tokens) : Parsed tokens (cursor.val + 1) := do
  match peek cursor with
  | none => throw (.fault .unexpectedEnd)
  | some ⟨.letter c, _, _⟩ => return (.letter c, ← advance cursor)
  | some ⟨.opening, _, position⟩ => do
    let ⟨behind, _⟩ ← advance cursor
    let (inner, ⟨closing, _⟩) ← parseDisjunction behind
    match peek closing with
    | some ⟨.closing, _, _⟩ => do
      let ⟨next, _⟩ ← advance closing
      return (inner, ⟨next, by omega⟩)
    | _ => throw (.fault (.unbalanced position))
  | some token => throw (.fault (.unexpectedToken token.text token.position))
  termination_by (tokens.length - cursor.val, 0)

end

/-! ### The tokens from the cursor on -/

/-- What is at the cursor: nothing, or a token that can be stepped over. -/
inductive Facing (cursor : Cursor tokens) : Prop
  | ending (none : peek cursor = none) (rest : tokens.drop cursor.val = [])
  | token (token : Token) (next : {next : Cursor tokens // cursor.val + 1 ≤ next.val})
      (one : next.val.val = cursor.val + 1) (inside : cursor.val < tokens.length)
      (here : peek cursor = some token) (steps : advance cursor = .ok next)
      (rest : tokens.drop cursor.val = token :: tokens.drop next.val.val)

theorem facing (cursor : Cursor tokens) : Facing cursor := by
  by_cases inside : cursor.val < tokens.length
  · refine .token tokens[cursor.val] ⟨⟨cursor.val + 1, Nat.succ_lt_succ inside⟩, Nat.le_refl _⟩ rfl
      inside ?_ ?_ (List.drop_eq_getElem_cons inside)
    · exact List.getElem?_eq_getElem inside
    · rw [advance, dif_pos inside]
  · exact .ending (List.getElem?_eq_none (Nat.not_lt.1 inside))
      (List.drop_eq_nil_of_le (Nat.not_lt.1 inside))

/-- Reading with a cursor and reading the tokens from it on come to the same: a tree with the same
tokens left, or a fault. -/
inductive Agrees {least : Nat} : Parsed tokens least → Reading → Prop
  | tree (e : Expression) (next : {next : Cursor tokens // least ≤ next.val}) :
      Agrees (.ok (e, next)) (.ok (e, tokens.drop next.val.val))
  | fault (fault : Fault) : Agrees (.error (.fault fault)) (.error fault)

namespace Agrees

variable {least less : Nat} {x : Parsed tokens least} {y : Reading}

theorem weaken (lower : less ≤ least) (agrees : Agrees x y) : Agrees (x.weaken lower) y := by
  cases agrees with
  | tree e next => exact .tree e ⟨next.val, Nat.le_trans lower next.2⟩
  | fault fault => exact .fault fault

/-- What goes on from there agrees as well. -/
theorem bind {f : Expression × {next : Cursor tokens // least ≤ next.val} → Parsed tokens less}
    {g : Expression × List Token → Reading} (agrees : Agrees x y)
    (rest : ∀ e next, Agrees (f (e, next)) (g (e, tokens.drop next.val.val))) :
    Agrees (x >>= f) (y >>= g) := by
  cases agrees with
  | tree e next => exact rest e next
  | fault fault => exact .fault fault

end Agrees

mutual

theorem agrees_disjunction : ∀ (depth : Nat) (cursor : Cursor tokens),
    4 * (tokens.length - cursor.val) + 4 ≤ depth →
      Agrees (parseDisjunction cursor) (readDisjunction depth (tokens.drop cursor.val))
  | 0, _, deep => by omega
  | depth + 1, cursor, deep => by
    rw [parseDisjunction, readDisjunction]
    refine (agrees_conjunction depth cursor (by omega)).bind fun first ⟨middle, behind⟩ => ?_
    exact (agrees_disjuncts depth first middle (by omega)).weaken _

theorem agrees_disjuncts : ∀ (depth : Nat) (left : Expression) (cursor : Cursor tokens),
    4 * (tokens.length - cursor.val) + 1 ≤ depth →
      Agrees (parseDisjuncts left cursor) (moreDisjuncts depth left (tokens.drop cursor.val))
  | 0, _, _, deep => by omega
  | depth + 1, left, cursor, deep => by
    have stays : Agrees (.ok (left, ⟨cursor, Nat.le_refl _⟩) : Parsed tokens cursor.val)
      (.ok (left, tokens.drop cursor.val)) := .tree left _
    rw [parseDisjuncts]
    cases facing cursor with
    | ending none rest =>
      rw [rest] at stays ⊢
      rw [none]
      exact stays
    | token token next one inside here steps rest =>
      obtain ⟨kind, text, position⟩ := token
      rw [rest] at stays ⊢
      rw [here]
      cases kind with
      | or =>
        simp only [moreDisjuncts, steps]
        refine (agrees_conjunction depth next.val (by omega)).bind fun right ⟨middle, behind⟩ => ?_
        exact (agrees_disjuncts depth (.or left right) middle (by omega)).weaken _
      | letter | and | not | opening | closing => exact stays

theorem agrees_conjunction : ∀ (depth : Nat) (cursor : Cursor tokens),
    4 * (tokens.length - cursor.val) + 3 ≤ depth →
      Agrees (parseConjunction cursor) (readConjunction depth (tokens.drop cursor.val))
  | 0, _, deep => by omega
  | depth + 1, cursor, deep => by
    rw [parseConjunction, readConjunction]
    refine (agrees_negation depth cursor (by omega)).bind fun first ⟨middle, behind⟩ => ?_
    exact (agrees_conjuncts depth first middle (by omega)).weaken _

theorem agrees_conjuncts : ∀ (depth : Nat) (left : Expression) (cursor : Cursor tokens),
    4 * (tokens.length - cursor.val) + 1 ≤ depth →
      Agrees (parseConjuncts left cursor) (moreConjuncts depth left (tokens.drop cursor.val))
  | 0, _, _, deep => by omega
  | depth + 1, left, cursor, deep => by
    have stays : Agrees (.ok (left, ⟨cursor, Nat.le_refl _⟩) : Parsed tokens cursor.val)
      (.ok (left, tokens.drop cursor.val)) := .tree left _
    rw [parseConjuncts]
    cases facing cursor with
    | ending none rest =>
      rw [rest] at stays ⊢
      rw [none]
      exact stays
    | token token next one inside here steps rest =>
      obtain ⟨kind, text, position⟩ := token
      rw [rest] at stays ⊢
      rw [here]
      cases kind with
      | and =>
        simp only [moreConjuncts, steps]
        refine (agrees_negation depth next.val (by omega)).bind fun right ⟨middle, behind⟩ => ?_
        exact (agrees_conjuncts depth (.and left right) middle (by omega)).weaken _
      | letter | or | not | opening | closing => exact stays

theorem agrees_negation : ∀ (depth : Nat) (cursor : Cursor tokens),
    4 * (tokens.length - cursor.val) + 2 ≤ depth →
      Agrees (parseNegation cursor) (readNegation depth (tokens.drop cursor.val))
  | 0, _, deep => by omega
  | depth + 1, cursor, deep => by
    have atom := agrees_atom depth cursor (by omega)
    rw [parseNegation]
    cases facing cursor with
    | ending none rest =>
      rw [rest] at atom ⊢
      rw [none]
      exact atom
    | token token next one inside here steps rest =>
      obtain ⟨kind, text, position⟩ := token
      rw [rest] at atom ⊢
      rw [here]
      cases kind with
      | not =>
        simp only [readNegation, steps]
        refine (agrees_negation depth next.val (by omega)).bind fun operand ⟨last, behind⟩ => ?_
        exact .tree (.not operand) _
      | letter | and | or | opening | closing => exact atom

theorem agrees_atom : ∀ (depth : Nat) (cursor : Cursor tokens),
    4 * (tokens.length - cursor.val) + 1 ≤ depth →
      Agrees (parseAtom cursor) (readAtom depth (tokens.drop cursor.val))
  | 0, _, deep => by omega
  | depth + 1, cursor, deep => by
    rw [parseAtom]
    cases facing cursor with
    | ending none rest =>
      rw [rest, none]
      exact .fault .unexpectedEnd
    | token token next one inside here steps rest =>
      obtain ⟨kind, text, position⟩ := token
      rw [rest, here]
      cases kind with
      | letter c =>
        simp only [steps]
        exact .tree (.letter c) next
      | opening =>
        simp only [readAtom, steps]
        refine (agrees_disjunction depth next.val (by omega)).bind fun inner ⟨closing, behind⟩ => ?_
        dsimp only
        cases facing closing with
        | ending none rest =>
          rw [rest, none]
          exact .fault (.unbalanced position)
        | token token last one inside here steps rest =>
          obtain ⟨kind, _, _⟩ := token
          rw [rest, here]
          cases kind with
          | closing =>
            simp only [steps]
            exact .tree inner _
          | letter | and | or | not | opening => exact .fault (.unbalanced position)
      | and | or | not | closing => exact .fault _

end

/-! ### All four rules -/

/-- What a rule of the grammar is for. -/
inductive Nonterminal where
  | disjunction
  | conjunction
  | negation
  | atom

/-- A tree and the place behind it. -/
def Parsed.bare {least : Nat} (x : Parsed tokens least) :
    Except Halt (Expression × Cursor tokens) :=
  x.map fun (e, next) => (e, next.val)

/-- Agreeing results, told by their parts. -/
theorem Agrees.cases_bare {least : Nat} {x : Parsed tokens least} {y : Reading}
    (agrees : Agrees x y) :
    (∃ fault, x.bare = .error (.fault fault) ∧ y = .error fault) ∨
      ∃ e next, x.bare = .ok (e, next) ∧ least ≤ next.val ∧ y = .ok (e, tokens.drop next.val) := by
  cases agrees with
  | fault fault => exact .inl ⟨fault, rfl, rfl⟩
  | tree e next => exact .inr ⟨e, next.val, rfl, next.2, rfl⟩

namespace Nonterminal

/-- Read a phrase from a cursor on. -/
def parse (n : Nonterminal) (cursor : Cursor tokens) : Except Halt (Expression × Cursor tokens) :=
  match n with
  | disjunction => (parseDisjunction cursor).bare
  | conjunction => (parseConjunction cursor).bare
  | negation => (parseNegation cursor).bare
  | atom => (parseAtom cursor).bare

/-- The tree of a phrase, and how many tokens it takes. -/
def taken (n : Nonterminal) (cursor : Cursor tokens) : Except Halt (Expression × Nat) :=
  (n.parse cursor).map fun (e, next) => (e, next.val - cursor.val)

/-- Read a phrase in front of tokens. -/
def read : Nonterminal → (depth : Nat) → List Token → Reading
  | disjunction => readDisjunction
  | conjunction => readConjunction
  | negation => readNegation
  | atom => readAtom

/-- The outcomes of a phrase: a fault, or a tree behind which the cursor has moved on.  The readers
that run have the same ones. -/
theorem parse_cases (n : Nonterminal) (cursor : Cursor tokens) {depth : Nat}
    (deep : 4 * (tokens.length - cursor.val) + 4 ≤ depth) :
    (∃ fault, n.parse cursor = .error (.fault fault) ∧
      n.read depth (tokens.drop cursor.val) = .error fault) ∨
    ∃ e next, n.parse cursor = .ok (e, next) ∧ cursor.val < next.val ∧
      n.read depth (tokens.drop cursor.val) = .ok (e, tokens.drop next.val) := by
  cases n with
  | disjunction => exact (agrees_disjunction depth cursor (by omega)).cases_bare
  | conjunction => exact (agrees_conjunction depth cursor (by omega)).cases_bare
  | negation => exact (agrees_negation depth cursor (by omega)).cases_bare
  | atom => exact (agrees_atom depth cursor (by omega)).cases_bare

/-- What stands before the cursor makes no difference. -/
theorem taken_eq (n : Nonterminal) {others : List Token} (cursor : Cursor tokens)
    (place : Cursor others) (same : others.drop place.val = tokens.drop cursor.val) :
    n.taken place = n.taken cursor := by
  have left : others.length - place.val = tokens.length - cursor.val := by
    simpa using congrArg List.length same
  have mine := n.parse_cases cursor (Nat.le_refl _)
  have theirs := n.parse_cases place (Nat.le_refl _)
  rw [left, same] at theirs
  unfold taken
  rcases mine with ⟨fault, parsed, read⟩ | ⟨e, next, parsed, further, read⟩ <;>
    rcases theirs with ⟨fault', parsed', read'⟩ | ⟨e', next', parsed', further', read'⟩
  · obtain rfl := Except.error.inj (read.symm.trans read')
    rw [parsed, parsed']
    rfl
  · cases read.symm.trans read'
  · cases read.symm.trans read'
  · obtain ⟨rfl, rest⟩ := Prod.mk.inj (Except.ok.inj (read.symm.trans read'))
    have behind : tokens.length - next.val = others.length - next'.val := by
      simpa using congrArg List.length rest
    have steps : next'.val - place.val = next.val - cursor.val := by omega
    rw [parsed, parsed']
    simp only [Except.map, steps]

/-- **Reading ends, within the tokens.**  From any place on, each rule comes to a fault or to a
tree.  With a tree the cursor has moved on and stands no further than at the end; no step is taken
where there is no token; and nothing depends on the tokens before the cursor.  The readers that run
come to the same on the tokens from there on, at any depth that is enough for so many. -/
theorem parse_within (n : Nonterminal) (tokens : List Token) (cursor : Cursor tokens) :
    ((∃ fault, n.parse cursor = .error (.fault fault) ∧
        ∀ depth, 4 * (tokens.length - cursor.val) + 4 ≤ depth →
          n.read depth (tokens.drop cursor.val) = .error fault) ∨
      ∃ e next, n.parse cursor = .ok (e, next) ∧ cursor.val < next.val ∧
        next.val ≤ tokens.length ∧
        ∀ depth, 4 * (tokens.length - cursor.val) + 4 ≤ depth →
          n.read depth (tokens.drop cursor.val) = .ok (e, tokens.drop next.val)) ∧
    n.parse cursor ≠ .error .overrun ∧
    ∀ (others : List Token) (place : Cursor others),
      others.drop place.val = tokens.drop cursor.val → n.taken place = n.taken cursor := by
  refine ⟨?outcome, ?within, fun others place => n.taken_eq cursor place⟩
  case outcome =>
    rcases n.parse_cases cursor (Nat.le_refl _) with
      ⟨fault, parsed, -⟩ | ⟨e, next, parsed, further, -⟩
    · refine .inl ⟨fault, parsed, fun depth deep => ?_⟩
      rcases n.parse_cases cursor deep with ⟨_, again, read⟩ | ⟨_, _, again, _⟩
      · obtain rfl := Halt.fault.inj (Except.error.inj (parsed.symm.trans again))
        exact read
      · cases parsed.symm.trans again
    · refine .inr ⟨e, next, parsed, further, Nat.le_of_lt_succ next.isLt, fun depth deep => ?_⟩
      rcases n.parse_cases cursor deep with ⟨_, again, -⟩ | ⟨_, _, again, -, read⟩
      · cases parsed.symm.trans again
      · obtain ⟨rfl, rfl⟩ := Prod.mk.inj (Except.ok.inj (parsed.symm.trans again))
        exact read
  case within =>
    rcases n.parse_cases cursor (Nat.le_refl _) with ⟨_, parsed, -⟩ | ⟨_, _, parsed, -⟩
    · rw [parsed]
      nofun
    · rw [parsed]
      nofun

end Nonterminal

end Expression
end Eligibility
