/-
# The grammar of expressions

Derivations of the grammar, one type for each of its rules:

    disjunction := conjunction (OR conjunction)*
    conjunction := negation (AND negation)*
    negation    := NOT negation | atom
    atom        := LETTER | '(' disjunction ')'

A derivation has a frontier, the kinds of the tokens that it derives, and a tree, in which chains
associate to the left and parentheses leave no trace.

The grammar is unambiguous (`Disjunction.eq_of_kinds_eq`): tokens have one derivation or none.
What may follow a phrase decides where it ends, so the lemma for each rule allows for more tokens
behind both frontiers, as long as they do not go on with the chain.
-/

import Eligibility.Expression.Token
import Eligibility.Expression.Basic

namespace Eligibility
namespace Expression

mutual

/-- Conjunctions with *or* between them. -/
inductive Disjunction where
  | mk (first : Conjunction) (more : Disjuncts)

/-- Any number of conjunctions with *or* before each. -/
inductive Disjuncts where
  | none
  | more (next : Conjunction) (rest : Disjuncts)

/-- Negations with *and* between them. -/
inductive Conjunction where
  | mk (first : Negation) (more : Conjuncts)

/-- Any number of negations with *and* before each. -/
inductive Conjuncts where
  | none
  | more (next : Negation) (rest : Conjuncts)

/-- An atom, denied any number of times. -/
inductive Negation where
  | not (operand : Negation)
  | atom (a : Atom)

/-- A letter, or a disjunction in parentheses. -/
inductive Atom where
  | letter (c : Char)
  | enclosed (inner : Disjunction)

end

/-! ### Frontiers -/

mutual

/-- The kinds of the tokens that are derived. -/
def Disjunction.kinds : Disjunction → List Kind
  | .mk first more => first.kinds ++ more.kinds

def Disjuncts.kinds : Disjuncts → List Kind
  | .none => []
  | .more next rest => .or :: (next.kinds ++ rest.kinds)

def Conjunction.kinds : Conjunction → List Kind
  | .mk first more => first.kinds ++ more.kinds

def Conjuncts.kinds : Conjuncts → List Kind
  | .none => []
  | .more next rest => .and :: (next.kinds ++ rest.kinds)

def Negation.kinds : Negation → List Kind
  | .not operand => .not :: operand.kinds
  | .atom a => a.kinds

def Atom.kinds : Atom → List Kind
  | .letter c => [.letter c]
  | .enclosed inner => .opening :: (inner.kinds ++ [.closing])

end

/-! ### Trees -/

mutual

/-- The tree of a derivation. -/
def Disjunction.tree : Disjunction → Expression
  | .mk first more => more.treeFrom first.tree

/-- The tree of a chain that goes on from what stands before. -/
def Disjuncts.treeFrom (left : Expression) : Disjuncts → Expression
  | .none => left
  | .more next rest => rest.treeFrom (.or left next.tree)

def Conjunction.tree : Conjunction → Expression
  | .mk first more => more.treeFrom first.tree

def Conjuncts.treeFrom (left : Expression) : Conjuncts → Expression
  | .none => left
  | .more next rest => rest.treeFrom (.and left next.tree)

def Negation.tree : Negation → Expression
  | .not operand => .not operand.tree
  | .atom a => a.tree

def Atom.tree : Atom → Expression
  | .letter c => .letter c
  | .enclosed inner => inner.tree

end

/-! ### No phrase is empty -/

theorem Atom.length_kinds_pos (a : Atom) : 0 < a.kinds.length := by
  cases a with
  | letter c => simp [Atom.kinds]
  | enclosed inner => simp [Atom.kinds]

theorem Negation.length_kinds_pos (n : Negation) : 0 < n.kinds.length := by
  cases n with
  | not operand => simp [Negation.kinds]
  | atom a =>
    rw [Negation.kinds]
    exact a.length_kinds_pos

theorem Conjunction.length_kinds_pos (c : Conjunction) : 0 < c.kinds.length := by
  obtain ⟨first, more⟩ := c
  have := first.length_kinds_pos
  rw [Conjunction.kinds, List.length_append]
  omega

/-! ### Letters -/

mutual

/-- The letters of the tree are those of the frontier. -/
theorem Disjunction.mem_occurrences (c : Char) :
    ∀ d : Disjunction, c ∈ d.tree.occurrences ↔ .letter c ∈ d.kinds
  | .mk first more => by
    rw [Disjunction.tree, Disjunction.kinds, List.mem_append, more.mem_occurrences,
      first.mem_occurrences]

theorem Disjuncts.mem_occurrences (c : Char) :
    ∀ (more : Disjuncts) (left : Expression),
      c ∈ (more.treeFrom left).occurrences ↔ c ∈ left.occurrences ∨ .letter c ∈ more.kinds
  | .none, left => by simp [Disjuncts.treeFrom, Disjuncts.kinds]
  | .more next rest, left => by
    rw [Disjuncts.treeFrom, rest.mem_occurrences]
    simp [occurrences, Disjuncts.kinds, next.mem_occurrences, or_assoc]

theorem Conjunction.mem_occurrences (c : Char) :
    ∀ d : Conjunction, c ∈ d.tree.occurrences ↔ .letter c ∈ d.kinds
  | .mk first more => by
    rw [Conjunction.tree, Conjunction.kinds, List.mem_append, more.mem_occurrences,
      first.mem_occurrences]

theorem Conjuncts.mem_occurrences (c : Char) :
    ∀ (more : Conjuncts) (left : Expression),
      c ∈ (more.treeFrom left).occurrences ↔ c ∈ left.occurrences ∨ .letter c ∈ more.kinds
  | .none, left => by simp [Conjuncts.treeFrom, Conjuncts.kinds]
  | .more next rest, left => by
    rw [Conjuncts.treeFrom, rest.mem_occurrences]
    simp [occurrences, Conjuncts.kinds, next.mem_occurrences, or_assoc]

theorem Negation.mem_occurrences (c : Char) :
    ∀ n : Negation, c ∈ n.tree.occurrences ↔ .letter c ∈ n.kinds
  | .not operand => by simp [Negation.tree, Negation.kinds, occurrences, operand.mem_occurrences]
  | .atom a => by rw [Negation.tree, Negation.kinds, a.mem_occurrences]

theorem Atom.mem_occurrences (c : Char) :
    ∀ a : Atom, c ∈ a.tree.occurrences ↔ .letter c ∈ a.kinds
  | .letter d => by simp [Atom.tree, Atom.kinds, occurrences]
  | .enclosed inner => by simp [Atom.tree, Atom.kinds, inner.mem_occurrences]

end

/-! ### Unambiguity -/

/-- A list of kinds does not begin with one of these. -/
def NotFirst (avoided : List Kind) (kinds : List Kind) : Prop :=
  ∀ kind ∈ kinds.head?, kind ∉ avoided

/-- The kinds that a conjunction would go on with. -/
abbrev conjoining : List Kind := [.and]

/-- The kinds that a disjunction would go on with. -/
abbrev joining : List Kind := [.and, .or]

theorem NotFirst.cons {avoided rest : List Kind} {kind : Kind} (other : kind ∉ avoided) :
    NotFirst avoided (kind :: rest) := by
  intro first same
  obtain rfl : kind = first := by simpa using same
  exact other

theorem NotFirst.conjoining {kinds : List Kind} (h : NotFirst joining kinds) :
    NotFirst conjoining kinds := by
  intro kind first member
  exact h kind first (by simp_all)

/-- Behind a conjunction of a disjunction there is no *and*. -/
theorem Disjuncts.notFirst (more : Disjuncts) {rest : List Kind} (stop : NotFirst joining rest) :
    NotFirst conjoining (more.kinds ++ rest) := by
  cases more with
  | none => simpa [Disjuncts.kinds] using stop.conjoining
  | more next others =>
    rw [Disjuncts.kinds, List.cons_append]
    exact .cons (by simp)

mutual

theorem Disjunction.cancel :
    ∀ (d e : Disjunction) {rest rest' : List Kind}, NotFirst joining rest →
      NotFirst joining rest' → d.kinds ++ rest = e.kinds ++ rest' → d = e ∧ rest = rest'
  | .mk first more, .mk first' more', rest, rest', stop, stop', same => by
    rw [Disjunction.kinds, Disjunction.kinds, List.append_assoc, List.append_assoc] at same
    obtain ⟨rfl, later⟩ := first.cancel first' (more.notFirst stop) (more'.notFirst stop') same
    obtain ⟨rfl, last⟩ := more.cancel more' stop stop' later
    exact ⟨rfl, last⟩

theorem Disjuncts.cancel :
    ∀ (d e : Disjuncts) {rest rest' : List Kind}, NotFirst joining rest →
      NotFirst joining rest' → d.kinds ++ rest = e.kinds ++ rest' → d = e ∧ rest = rest'
  | .none, .none, _, _, _, _, same => ⟨rfl, by simpa [Disjuncts.kinds] using same⟩
  | .none, .more next others, _, _, stop, _, same => by
    simp only [Disjuncts.kinds, List.nil_append, List.cons_append] at same
    rw [same] at stop
    exact absurd (stop .or rfl) (by simp)
  | .more next others, .none, _, _, _, stop', same => by
    simp only [Disjuncts.kinds, List.nil_append, List.cons_append] at same
    rw [← same] at stop'
    exact absurd (stop' .or rfl) (by simp)
  | .more next others, .more next' others', rest, rest', stop, stop', same => by
    simp only [Disjuncts.kinds, List.cons_append, List.append_assoc, List.cons.injEq,
      true_and] at same
    obtain ⟨rfl, later⟩ := next.cancel next' (others.notFirst stop) (others'.notFirst stop') same
    obtain ⟨rfl, last⟩ := others.cancel others' stop stop' later
    exact ⟨rfl, last⟩

theorem Conjunction.cancel :
    ∀ (d e : Conjunction) {rest rest' : List Kind}, NotFirst conjoining rest →
      NotFirst conjoining rest' → d.kinds ++ rest = e.kinds ++ rest' → d = e ∧ rest = rest'
  | .mk first more, .mk first' more', rest, rest', stop, stop', same => by
    rw [Conjunction.kinds, Conjunction.kinds, List.append_assoc, List.append_assoc] at same
    obtain ⟨rfl, later⟩ := first.cancel first' same
    obtain ⟨rfl, last⟩ := more.cancel more' stop stop' later
    exact ⟨rfl, last⟩

theorem Conjuncts.cancel :
    ∀ (d e : Conjuncts) {rest rest' : List Kind}, NotFirst conjoining rest →
      NotFirst conjoining rest' → d.kinds ++ rest = e.kinds ++ rest' → d = e ∧ rest = rest'
  | .none, .none, _, _, _, _, same => ⟨rfl, by simpa [Conjuncts.kinds] using same⟩
  | .none, .more next others, _, _, stop, _, same => by
    simp only [Conjuncts.kinds, List.nil_append, List.cons_append] at same
    rw [same] at stop
    exact absurd (stop .and rfl) (by simp)
  | .more next others, .none, _, _, _, stop', same => by
    simp only [Conjuncts.kinds, List.nil_append, List.cons_append] at same
    rw [← same] at stop'
    exact absurd (stop' .and rfl) (by simp)
  | .more next others, .more next' others', rest, rest', stop, stop', same => by
    simp only [Conjuncts.kinds, List.cons_append, List.append_assoc, List.cons.injEq,
      true_and] at same
    obtain ⟨rfl, later⟩ := next.cancel next' same
    obtain ⟨rfl, last⟩ := others.cancel others' stop stop' later
    exact ⟨rfl, last⟩

theorem Negation.cancel :
    ∀ (d e : Negation) {rest rest' : List Kind}, d.kinds ++ rest = e.kinds ++ rest' →
      d = e ∧ rest = rest'
  | .not operand, .not operand', rest, rest', same => by
    simp only [Negation.kinds, List.cons_append, List.cons.injEq, true_and] at same
    obtain ⟨rfl, last⟩ := operand.cancel operand' same
    exact ⟨rfl, last⟩
  | .not operand, .atom a, rest, rest', same => by
    cases a with
    | letter c => simp [Negation.kinds, Atom.kinds] at same
    | enclosed inner => simp [Negation.kinds, Atom.kinds] at same
  | .atom a, .not operand, rest, rest', same => by
    cases a with
    | letter c => simp [Negation.kinds, Atom.kinds] at same
    | enclosed inner => simp [Negation.kinds, Atom.kinds] at same
  | .atom a, .atom a', rest, rest', same => by
    rw [Negation.kinds, Negation.kinds] at same
    obtain ⟨rfl, last⟩ := a.cancel a' same
    exact ⟨rfl, last⟩

theorem Atom.cancel :
    ∀ (d e : Atom) {rest rest' : List Kind}, d.kinds ++ rest = e.kinds ++ rest' →
      d = e ∧ rest = rest'
  | .letter c, .letter c', rest, rest', same => by
    simp only [Atom.kinds, List.cons_append, List.nil_append, List.cons.injEq,
      Kind.letter.injEq] at same
    obtain ⟨rfl, last⟩ := same
    exact ⟨rfl, last⟩
  | .letter c, .enclosed inner, rest, rest', same => by simp [Atom.kinds] at same
  | .enclosed inner, .letter c, rest, rest', same => by simp [Atom.kinds] at same
  | .enclosed inner, .enclosed inner', rest, rest', same => by
    simp only [Atom.kinds, List.cons_append, List.append_assoc, List.cons.injEq, true_and,
      List.nil_append] at same
    have stop (rest : List Kind) : NotFirst joining (.closing :: rest) := .cons (by simp)
    obtain ⟨rfl, closed⟩ := inner.cancel inner' (stop _) (stop _) same
    exact ⟨rfl, (List.cons.inj closed).2⟩

end

/-- **The grammar is unambiguous.** -/
theorem Disjunction.eq_of_kinds_eq {d e : Disjunction} (same : d.kinds = e.kinds) : d = e := by
  have stop : NotFirst joining [] := by simp [NotFirst]
  exact (d.cancel e stop stop (by rw [same])).1

end Expression
end Eligibility
