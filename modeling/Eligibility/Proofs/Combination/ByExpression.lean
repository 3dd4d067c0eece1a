/-
# Combinations by an expression

The letters of an expression stand for the outcomes at their places in the alphabet.  A combination
by an expression has an outcome of its own exactly when its value writes an expression, every letter
of which stands for an outcome, and there is a letter for each of the outcomes.  Then it passes when
the expression is true; in any other case it has a fault and does not pass
(`Combination.outcome_by_expression`).

| what is given | what it comes to |
| --- | --- |
| more outcomes than there are letters | a fault |
| nothing, or a blank text | a fault |
| a text that the grammar does not derive | a fault |
| an expression with a letter beyond the outcomes | a fault |
| any other expression | the truth of the expression |

An expression is evaluated from the left, and a right operand only when the left one leaves the
truth open (`Expression.eval?`).  Such an evaluation would not notice a letter that stands for
nothing as long as it does not come upon it.  All letters are looked at beforehand, so that it
never comes upon one (`Expression.eval?_of_defined`).
-/

import Eligibility.Proofs.Combination.Rising

namespace Eligibility

namespace Expression

/-! ### Evaluation that may come upon an undefined letter -/

/-- The truth of an expression when some letters have none.  There is no truth once one of these is
come upon; a right operand is left alone when the left one settles the matter. -/
def eval? (look : Char → Option Bool) : Expression → Option Bool
  | letter c => look c
  | not operand => (operand.eval? look).map (!·)
  | and left right =>
    match left.eval? look with
    | some true => right.eval? look
    | settled => settled
  | or left right =>
    match left.eval? look with
    | some false => right.eval? look
    | settled => settled

/-- **With all its letters defined, an expression has a truth**, in whatever order it is found. -/
theorem eval?_of_defined {look : Char → Option Bool} {truth : Char → Bool} {e : Expression}
    (defined : ∀ c ∈ e.occurrences, look c = some (truth c)) :
    e.eval? look = some (e.eval truth) := by
  induction e with
  | letter c => exact defined c (List.mem_singleton_self c)
  | not operand ih => rw [eval?, ih defined, Option.map_some, eval]
  | and left right ihl ihr =>
    have first := ihl fun c member => defined c (List.mem_append_left _ member)
    have second := ihr fun c member => defined c (List.mem_append_right _ member)
    rw [eval?, first, eval]
    cases left.eval truth with
    | true => exact second
    | false => rfl
  | or left right ihl ihr =>
    have first := ihl fun c member => defined c (List.mem_append_left _ member)
    have second := ihr fun c member => defined c (List.mem_append_right _ member)
    rw [eval?, first, eval]
    cases left.eval truth with
    | true => rfl
    | false => exact second

/-- A letter that stands for nothing goes unnoticed behind one that settles the matter. -/
example : (Expression.or (.letter 'a') (.letter 'b')).eval?
    (fun c => if c = 'a' then some true else none) = some true := rfl

end Expression

namespace Combination

open Expression (Disjunction kindsOf tokenize truthOf)

variable {combination minimum expression : Value} {flags : List Bool} {d : Disjunction}

/-! ### What letters stand for -/

/-- The outcome that a letter stands for, when there are as many: the one at its place. -/
def outcomeOf (flags : List Bool) (c : Char) : Option Bool := flags[alphabet.idxOf c]?

/-- The letters stand for the outcomes in order. -/
def StandsFor (truth : Char → Bool) (flags : List Bool) : Prop :=
  ∀ place (lettered : place < alphabet.length) (there : place < flags.length),
    truth alphabet[place] = flags[place]

theorem truthOf_zip (letters : List Char) (flags : List Bool) {c : Char}
    (inside : c ∈ letters.take flags.length) :
    flags[letters.idxOf c]? = some (truthOf (letters.zip flags) c) := by
  induction letters generalizing flags with
  | nil => simp at inside
  | cons letter letters ih =>
    cases flags with
    | nil => simp at inside
    | cons flag flags =>
      rw [List.zip_cons_cons, truthOf_cons, List.idxOf_cons]
      cases here : letter == c with
      | true => rfl
      | false =>
        have other : c ≠ letter := fun same => by simp [same] at here
        rw [List.length_cons, List.take_succ_cons, List.mem_cons] at inside
        exact ih flags (inside.resolve_left other)

/-- Letters that stand for the outcomes in order have the truth that they are looked up with. -/
theorem StandsFor.eq_truthOf {truth : Char → Bool} (stands : StandsFor truth flags) {c : Char}
    (inside : c ∈ alphabet.take flags.length) : truth c = truthOf (lettered flags) c := by
  have found := truthOf_zip alphabet flags inside
  obtain ⟨there, standing⟩ := List.getElem?_eq_some_iff.1 found
  have known : alphabet.idxOf c < alphabet.length :=
    List.idxOf_lt_length_iff.2 (List.mem_of_mem_take inside)
  have same := stands _ known there
  rw [List.getElem_idxOf known] at same
  rw [same, standing]
  rfl

/-! ### What a value writes -/

/-- A value writes an expression: it is neither absent nor blank, and its text falls into the tokens
of a derivation. -/
structure Writes (expression : Value) (d : Disjunction) : Prop where
  given : ¬expression.isNull
  written : ¬expression.display.toList.all Text.isBlank
  derived : ∃ tokens, tokenize expression.display = .ok tokens ∧ d.kinds = kindsOf tokens

/-- There is a letter for each outcome, and an outcome for each letter of the expression. -/
def Suits (flags : List Bool) (d : Disjunction) : Prop :=
  flags.length ≤ 26 ∧ ∀ c, .letter c ∈ d.kinds → c ∈ alphabet.take flags.length

theorem expressionOver_of_writes (writes : Writes expression d) (suits : Suits flags d) :
    expressionOver flags.length expression = .ok d.tree := by
  obtain ⟨given, written, tokens, found, same⟩ := writes
  have read : Expression.ofText expression.display = .ok d.tree :=
    bind_eq_ok.2 ⟨tokens, found, Expression.ofTokens_of_kinds same⟩
  exact expressionOver_eq_ok.2 ⟨suits.1, given, written, read, fun c occurs =>
    suits.2 c ((d.mem_occurrences c).1 occurs)⟩

theorem exists_writes {e : Expression}
    (usable : expressionOver flags.length expression = .ok e) :
    ∃ d, Writes expression d ∧ Suits flags d := by
  obtain ⟨few, given, written, read, inside⟩ := expressionOver_eq_ok.1 usable
  obtain ⟨tokens, found, parsed⟩ := bind_eq_ok.1 read
  obtain ⟨d, same, rfl⟩ := Expression.kinds_of_ofTokens parsed
  exact ⟨d, ⟨given, written, tokens, found, same⟩, few, fun c member =>
    inside c ((d.mem_occurrences c).2 member)⟩

theorem error?_eq_none {outcome : Except Fault Bool} :
    error? outcome = none ↔ ∃ flag, outcome = .ok flag := by
  cases outcome with
  | ok flag => simp [error?]
  | error fault => simp [error?]

/-- **A combination by an expression means its expression, or it does not pass.**  It is free of
faults exactly when its value writes an expression and the letters of that suit the outcomes.  Then
every letter that is come upon stands for an outcome, and the combination passes when the expression
is true with the letters standing for the outcomes in order.  With a fault it does not pass. -/
theorem outcome_by_expression (byExpression : ByExpression combination) (flags : List Bool)
    (minimum expression : Value) :
    let outcome := combine combination flags minimum expression
    (error? outcome = none ↔ ∃ d, Writes expression d ∧ Suits flags d) ∧
    (∀ d, Writes expression d → Suits flags d →
      d.tree.eval? (outcomeOf flags) = some (passed outcome) ∧
      ∀ truth, StandsFor truth flags → passed outcome = d.tree.eval truth) ∧
    (error? outcome ≠ none → passed outcome = false) := by
  intro outcome
  have reduced : outcome =
      (expressionOver flags.length expression).map (·.eval (truthOf (lettered flags))) :=
    (combine_of_spelled byExpression flags minimum expression).trans
      (byExpression_eq flags expression)
  refine ⟨⟨fun free => ?usable, ?free⟩, fun d writes suits => ?meaning, not_passed_of_error?⟩
  case usable =>
    obtain ⟨flag, came⟩ := error?_eq_none.1 free
    rw [reduced] at came
    cases usable : expressionOver flags.length expression with
    | error fault =>
      rw [usable] at came
      cases came
    | ok e => exact exists_writes usable
  case free =>
    rintro ⟨d, writes, suits⟩
    rw [expressionOver_of_writes writes suits] at reduced
    exact error?_eq_none.2 ⟨_, reduced⟩
  case meaning =>
    rw [expressionOver_of_writes writes suits] at reduced
    have passes : passed outcome = d.tree.eval (truthOf (lettered flags)) := by
      rw [reduced]
      rfl
    have inside (c : Char) (occurs : c ∈ d.tree.occurrences) : c ∈ alphabet.take flags.length :=
      suits.2 c ((d.mem_occurrences c).1 occurs)
    refine ⟨?_, fun truth stands => ?_⟩
    · rw [passes]
      exact Expression.eval?_of_defined fun c occurs => truthOf_zip alphabet flags (inside c occurs)
    · rw [passes]
      exact Expression.eval_congr fun c occurs => (stands.eq_truthOf (inside c occurs)).symm

/-- Either the first outcome is not true, or the second is and the third is not. -/
def either : Disjunction :=
  .mk (.mk (.not (.atom (.letter 'a'))) .none)
    (.more (.mk (.atom (.enclosed
      (.mk (.mk (.atom (.letter 'b')) (.more (.not (.atom (.letter 'c'))) .none)) .none))) .none)
      .none)

/-- An expression over three outcomes passes as it is written.  One with a fourth letter has a
fault, although its first letter stands for a true outcome and settles the matter. -/
theorem outcome_by_expression_either :
    let flags := [true, true, false]
    ByExpression (.text " Boolean") ∧ Writes (.text "not a or (b AND NOT c)") either ∧
      Suits flags either ∧
      passed (combine (.text " Boolean") flags .null (.text "not a or (b AND NOT c)")) = true ∧
      error? (combine (.text " Boolean") flags .null (.text "a or d")) ≠ none ∧
      passed (combine (.text " Boolean") flags .null (.text "a or d")) = false := by
  intro flags
  have byExpression : ByExpression (.text " Boolean") := by
    unfold ByExpression
    decide +kernel
  have writes : Writes (.text "not a or (b AND NOT c)") either := by
    refine ⟨by decide, by decide +kernel, ?_⟩
    obtain ⟨tokens, found, same⟩ := exists_ok_of_toOption
      (x := tokenize "not a or (b AND NOT c)") (f := kindsOf) (b := either.kinds) (by decide +kernel)
    exact ⟨tokens, found, same.symm⟩
  have suits : Suits flags either := by
    refine ⟨by decide, fun c member => ?_⟩
    have letters : c = 'a' ∨ c = 'b' ∨ c = 'c' := by
      simpa [either, Disjunction.kinds, Expression.Disjuncts.kinds, Expression.Conjunction.kinds,
        Expression.Conjuncts.kinds, Expression.Negation.kinds, Expression.Atom.kinds] using member
    rcases letters with rfl | rfl | rfl <;> decide
  obtain ⟨-, meaning, -⟩ := outcome_by_expression byExpression flags .null
    (.text "not a or (b AND NOT c)")
  obtain ⟨free, -, closed⟩ := outcome_by_expression byExpression flags .null (.text "a or d")
  have faulty : error? (combine (.text " Boolean") flags .null (.text "a or d")) ≠ none := by
    rw [Ne, free]
    rintro ⟨d, ⟨-, -, tokens, found, same⟩, -, inside⟩
    have fourth : (tokenize "a or d").toOption.map kindsOf = some [.letter 'a', .or, .letter 'd'] := by
      decide +kernel
    obtain ⟨tokens', found', same'⟩ := exists_ok_of_toOption fourth
    obtain rfl := Except.ok.inj (found.symm.trans found')
    exact absurd (inside 'd' (by simp [same, same'])) (by decide)
  refine ⟨byExpression, writes, suits, ?_, faulty, closed faulty⟩
  exact Option.some.inj ((meaning either writes suits).1.symm.trans (by decide))

end Combination
end Eligibility
