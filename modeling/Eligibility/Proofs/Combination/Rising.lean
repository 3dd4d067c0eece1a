/-
# Combinations that keep order

An outcome that turns true never fails a combination that asks for true outcomes: `all`, `any`,
`min`, `majority`, and an expression without *not* (`Combination.passes_with_more`).  It never helps
one that denies them, `nand` or `nor`.

For an expression this goes back to its text.  The tokens of the text hold no *not* exactly when the
tree that is read from them has none (`Expression.positive_iff_undenied`), such a tree keeps order
(`Expression.Positive.eval_mono`), and its letters stand for the outcomes at their places.

A combination takes its expression from the value and from the number of outcomes, and only then
looks at the outcomes (`Combination.byExpression_eq`).  So whether it has a fault, and which,
depends on their number alone (`Combination.error?_congr`).
-/

import Eligibility.Proofs.Combination
import Eligibility.Proofs.Expression.Reading

namespace Eligibility

/-- The second list holds as many outcomes, and is true wherever the first one is. -/
def Rises (flags more : List Bool) : Prop :=
  List.Forall₂ (fun before after => before = true → after = true) flags more

namespace Expression

/-! ### Expressions without *not* -/

/-- There is no *not* in an expression. -/
def Positive : Expression → Prop
  | letter _ => True
  | not _ => False
  | and left right => left.Positive ∧ right.Positive
  | or left right => left.Positive ∧ right.Positive

/-- **Without *not*, an expression keeps order.** -/
theorem Positive.eval_mono {e : Expression} (positive : e.Positive) {truth later : Char → Bool}
    (rises : ∀ c, truth c = true → later c = true) (holds : e.eval truth = true) :
    e.eval later = true := by
  induction e with
  | letter c => exact rises c holds
  | not operand => exact positive.elim
  | and left right ihl ihr =>
    obtain ⟨first, second⟩ := Bool.and_eq_true_iff.1 holds
    exact Bool.and_eq_true_iff.2 ⟨ihl positive.1 first, ihr positive.2 second⟩
  | or left right ihl ihr =>
    obtain first | second := Bool.or_eq_true_iff.1 holds
    · exact Bool.or_eq_true_iff.2 (.inl (ihl positive.1 first))
    · exact Bool.or_eq_true_iff.2 (.inr (ihr positive.2 second))

mutual

/-- The tree of a derivation has a *not* exactly when the frontier has one. -/
theorem Disjunction.positive_iff : ∀ d : Disjunction, d.tree.Positive ↔ .not ∉ d.kinds
  | .mk first more => by
    rw [Disjunction.tree, Disjunction.kinds, List.mem_append, not_or, more.positive_iff,
      first.positive_iff]

theorem Disjuncts.positive_iff : ∀ (more : Disjuncts) (left : Expression),
    (more.treeFrom left).Positive ↔ left.Positive ∧ .not ∉ more.kinds
  | .none, left => by simp [Disjuncts.treeFrom, Disjuncts.kinds]
  | .more next rest, left => by
    rw [Disjuncts.treeFrom, rest.positive_iff]
    simp [Positive, Disjuncts.kinds, next.positive_iff, and_assoc]

theorem Conjunction.positive_iff : ∀ d : Conjunction, d.tree.Positive ↔ .not ∉ d.kinds
  | .mk first more => by
    rw [Conjunction.tree, Conjunction.kinds, List.mem_append, not_or, more.positive_iff,
      first.positive_iff]

theorem Conjuncts.positive_iff : ∀ (more : Conjuncts) (left : Expression),
    (more.treeFrom left).Positive ↔ left.Positive ∧ .not ∉ more.kinds
  | .none, left => by simp [Conjuncts.treeFrom, Conjuncts.kinds]
  | .more next rest, left => by
    rw [Conjuncts.treeFrom, rest.positive_iff]
    simp [Positive, Conjuncts.kinds, next.positive_iff, and_assoc]

theorem Negation.positive_iff : ∀ n : Negation, n.tree.Positive ↔ .not ∉ n.kinds
  | .not operand => by simp [Negation.tree, Negation.kinds, Positive]
  | .atom a => by rw [Negation.tree, Negation.kinds, a.positive_iff]

theorem Atom.positive_iff : ∀ a : Atom, a.tree.Positive ↔ .not ∉ a.kinds
  | .letter c => by simp [Atom.tree, Atom.kinds, Positive]
  | .enclosed inner => by simp [Atom.tree, Atom.kinds, inner.positive_iff]

end

/-- None of the tokens of a text is a *not*. -/
def Undenied (s : String) : Prop :=
  ∀ tokens, tokenize s = .ok tokens → ∀ token ∈ tokens, token.kind ≠ .not

/-- **A text without *not* is read as an expression without *not***, and no other text is. -/
theorem positive_iff_undenied {s : String} {e : Expression} (read : ofText s = .ok e) :
    e.Positive ↔ Undenied s := by
  obtain ⟨tokens, found, parsed⟩ := bind_eq_ok.1 read
  obtain ⟨d, same, rfl⟩ := kinds_of_ofTokens parsed
  rw [d.positive_iff, same, List.mem_map]
  constructor
  · intro none others found' token member denied
    obtain rfl := Except.ok.inj (found.symm.trans found')
    exact none ⟨token, member, denied⟩
  · rintro undenied ⟨token, member, denied⟩
    exact undenied tokens found token member denied

end Expression

namespace Combination

open Expression (truthOf undefinedLetters)

variable {combination minimum expression : Value} {flags more : List Bool}

/-! ### Letters -/

theorem truthOf_cons (letter : Char) (flag : Bool) (values : List (Char × Bool)) (c : Char) :
    truthOf ((letter, flag) :: values) c = if letter == c then flag else truthOf values c := by
  unfold truthOf
  rw [List.find?_cons]
  cases letter == c <;> rfl

theorem truthOf_zip_mono (letters : List Char) (rises : Rises flags more) (c : Char)
    (holds : truthOf (letters.zip flags) c = true) : truthOf (letters.zip more) c = true := by
  induction rises generalizing letters with
  | nil => exact holds
  | @cons before after _ _ first _ ih =>
    cases letters with
    | nil => exact holds
    | cons letter letters =>
      rw [List.zip_cons_cons, truthOf_cons] at holds ⊢
      split at holds
      · next here => rw [if_pos here, first holds]
      · next elsewhere =>
        rw [if_neg elsewhere]
        exact ih letters holds

theorem any_zip (letters : List Char) (flags : List Bool) (c : Char) :
    (letters.zip flags).any (·.1 == c) = (letters.take flags.length).any (· == c) := by
  induction letters generalizing flags with
  | nil => simp
  | cons letter letters ih =>
    cases flags with
    | nil => simp
    | cons flag flags => simp [ih]

/-! ### Expressions over so many outcomes -/

/-- The letters of an expression for which there are too few outcomes. -/
def lettersBeyond (count : Nat) (e : Expression) : List Char :=
  e.letters.filter fun c => !(alphabet.take count).any (· == c)

theorem undefinedLetters_lettered (e : Expression) (flags : List Bool) :
    undefinedLetters e (lettered flags) = lettersBeyond flags.length e := by
  simp only [undefinedLetters, lettered, any_zip, lettersBeyond]

theorem lettersBeyond_eq_nil {count : Nat} {e : Expression} :
    lettersBeyond count e = [] ↔ ∀ c ∈ e.occurrences, c ∈ alphabet.take count := by
  rw [lettersBeyond, List.filter_eq_nil_iff]
  refine forall_congr' fun c => ?_
  rw [Expression.mem_letters]
  simp

/-- An expression for which there are enough outcomes. -/
def confined (count : Nat) (e : Expression) : Except Expression.Fault Expression :=
  match lettersBeyond count e with
  | [] => .ok e
  | letters => .error (.undefinedLetters letters)

theorem confined_eq_ok {count : Nat} {found e : Expression} :
    confined count found = .ok e ↔
      found = e ∧ ∀ c ∈ e.occurrences, c ∈ alphabet.take count := by
  rw [← lettersBeyond_eq_nil, confined]
  constructor
  · intro came
    split at came
    · next none =>
      obtain rfl := Except.ok.inj came
      exact ⟨rfl, none⟩
    · cases came
  · rintro ⟨rfl, none⟩
    rw [none]

/-- The expression that a value writes for so many outcomes. -/
def expressionOver (count : Nat) (expression : Value) : Except Fault Expression :=
  if count > alphabet.length then .error .tooManyOperands
  else if expression.isNull then .error (.expression .missing)
  else Except.mapError .expression <|
    if expression.display.toList.all Text.isBlank then .error .missing
    else Expression.ofText expression.display >>= confined count

/-- **An expression is read for a number of outcomes**, whatever they are; those give it its
truth. -/
theorem byExpression_eq (flags : List Bool) (expression : Value) :
    byExpression flags expression =
      (expressionOver flags.length expression).map (·.eval (truthOf (lettered flags))) := by
  unfold byExpression expressionOver Expression.truthOfText
  split
  · rfl
  · split
    · rfl
    · split
      · rfl
      · cases Expression.ofText expression.display with
        | error fault => rfl
        | ok e =>
          simp only [bind, Except.bind, Expression.truth, undefinedLetters_lettered, confined]
          cases lettersBeyond flags.length e <;> rfl

/-- **When there is an expression for so many outcomes**: there is a letter for each of them, and a
text is given that is an expression over these letters. -/
theorem expressionOver_eq_ok {count : Nat} {e : Expression} :
    expressionOver count expression = .ok e ↔
      count ≤ alphabet.length ∧ ¬expression.isNull ∧ ¬expression.display.toList.all Text.isBlank ∧
        Expression.ofText expression.display = .ok e ∧
        ∀ c ∈ e.occurrences, c ∈ alphabet.take count := by
  unfold expressionOver
  split
  · next many => exact iff_of_false nofun fun usable => Nat.not_le_of_lt many usable.1
  · next few =>
    split
    · next none => exact iff_of_false nofun fun usable => usable.2.1 none
    · next some =>
      rw [mapError_eq_ok]
      split
      · next blank => exact iff_of_false nofun fun usable => usable.2.2.1 blank
      · next written =>
        simp only [bind_eq_ok, confined_eq_ok]
        constructor
        · rintro ⟨_, read, rfl, inside⟩
          exact ⟨Nat.le_of_not_lt few, some, written, read, inside⟩
        · rintro ⟨-, -, -, read, inside⟩
          exact ⟨e, read, rfl, inside⟩

/-! ### Faults -/

theorem error?_map (outcome : Except Fault Expression) (f g : Expression → Bool) :
    error? (outcome.map f) = error? (outcome.map g) := by
  cases outcome with
  | error fault => rfl
  | ok e => rfl

/-- **What is wrong with a combination depends on the number of outcomes alone.** -/
theorem error?_congr (combination minimum expression : Value)
    (same : flags.length = more.length) :
    error? (combine combination flags minimum expression) =
      error? (combine combination more minimum expression) := by
  unfold combine
  split
  · next combinator _ =>
    cases combinator with
    | min => rw [error?_min, error?_min]
    | boolean =>
      change error? (byExpression flags expression) = error? (byExpression more expression)
      rw [byExpression_eq, byExpression_eq, same]
      exact error?_map ..
    | all | any | majority | nand | nor | xor => rfl
  · rfl

/-! ### More true outcomes -/

theorem count_le_of_rises (rises : Rises flags more) : flags.count true ≤ more.count true := by
  induction rises with
  | nil => exact Nat.le_refl 0
  | @cons before after _ _ first _ ih =>
    cases before with
    | false =>
      rw [List.count_cons_of_ne Bool.false_ne_true]
      exact Nat.le_trans ih (List.count_le_count_cons)
    | true =>
      rw [first rfl, List.count_cons_self, List.count_cons_self]
      exact Nat.succ_le_succ ih

/-- What asks for true outcomes passes with more of them. -/
theorem reduce_rises {combinator : Combinator} (asks : combinator ∈ [.all, .any, .min, .majority])
    (rises : Rises flags more) (passes : reduce combinator flags minimum expression = .ok true) :
    reduce combinator more minimum expression = .ok true := by
  have count := count_le_of_rises rises
  have length := rises.length_eq
  have most : more.count true ≤ more.length := List.count_le_length
  cases combinator with
  | all =>
    have every : flags.count true = flags.length := eq_of_beq (Except.ok.inj passes)
    exact congrArg Except.ok (beq_iff_eq.2 (by omega))
  | any =>
    have some : 0 < flags.count true := of_decide_eq_true (Except.ok.inj passes)
    exact congrArg Except.ok (decide_eq_true (by omega))
  | majority =>
    have half : flags.length < 2 * flags.count true := of_decide_eq_true (Except.ok.inj passes)
    exact congrArg Except.ok (decide_eq_true (by omega))
  | min =>
    rw [reduce] at passes ⊢
    cases least : minimum? minimum with
    | none =>
      rw [least] at passes
      cases passes
    | some least' =>
      rw [least] at passes
      have enough : least' ≤ flags.count true := of_decide_eq_true (Except.ok.inj passes)
      exact congrArg Except.ok (decide_eq_true (Nat.le_trans enough count))
  | boolean | nand | nor | xor => simp at asks

/-- What denies a combinator that asks for true outcomes passes with fewer of them. -/
theorem denial_falls {denied : Combinator} {outcome : List Bool → Except Fault Bool}
    (denies : ∀ flags, outcome flags = (reduce denied flags minimum expression).map (!·))
    (counts : denied ≠ .min ∧ denied ≠ .boolean) (asks : denied ∈ [.all, .any, .min, .majority])
    (rises : Rises flags more) (passes : outcome more = .ok true) : outcome flags = .ok true := by
  obtain ⟨before, came⟩ := exists_reduce counts flags minimum expression
  obtain ⟨after, later⟩ := exists_reduce counts more minimum expression
  rw [denies, later] at passes
  rw [denies, came]
  cases before with
  | false => rfl
  | true =>
    obtain rfl : after = true := Except.ok.inj (later.symm.trans (reduce_rises asks rises came))
    cases passes

/-- An expression without *not* keeps passing. -/
theorem byExpression_rises (undenied : Expression.Undenied expression.display)
    (rises : Rises flags more) (passes : byExpression flags expression = .ok true) :
    byExpression more expression = .ok true := by
  rw [byExpression_eq] at passes ⊢
  rw [← rises.length_eq]
  cases read : expressionOver flags.length expression with
  | error fault =>
    rw [read] at passes
    cases passes
  | ok e =>
    rw [read] at passes
    obtain ⟨-, -, -, parsed, -⟩ := expressionOver_eq_ok.1 read
    have positive : e.Positive := (Expression.positive_iff_undenied parsed).2 undenied
    exact congrArg Except.ok
      (positive.eval_mono (truthOf_zip_mono alphabet rises) (Except.ok.inj passes))

theorem passed_iff {outcome : Except Fault Bool} : passed outcome = true ↔ outcome = .ok true := by
  cases outcome with
  | ok flag => simp [passed]
  | error fault => simp [passed]

/-- **More true outcomes never fail a combination that asks for them**, and never help one that
denies them.  An expression asks for them when there is no *not* among its tokens.  A combination
with a fault does not pass; more true outcomes do not mend it, nor do they make one. -/
theorem passes_with_more {combinator : Combinator}
    (spelled : Combinator.ofValue? combination = some combinator) (rises : Rises flags more) :
    (combinator ∈ [.all, .any, .min, .majority] ∨
        combinator = .boolean ∧ Expression.Undenied expression.display →
      passed (combine combination flags minimum expression) = true →
        passed (combine combination more minimum expression) = true) ∧
    (combinator ∈ [.nand, .nor] →
      passed (combine combination more minimum expression) = true →
        passed (combine combination flags minimum expression) = true) ∧
    error? (combine combination more minimum expression) =
      error? (combine combination flags minimum expression) := by
  refine ⟨?rising, ?falling, error?_congr _ _ _ rises.length_eq.symm⟩
  all_goals simp only [passed_iff, combine_of_spelled spelled]
  case rising =>
    rintro (asks | ⟨rfl, undenied⟩)
    · exact reduce_rises asks rises
    · exact byExpression_rises undenied rises
  case falling =>
    intro denies
    rcases List.mem_pair.1 denies with rfl | rfl
    · exact denial_falls (fun _ => reduce_nand) (by simp) (by simp) rises
    · exact denial_falls (fun _ => reduce_nor) (by simp) (by simp) rises

/-- A panel of three, of whom the first or both others have to agree. -/
def panel : Value := .text "a OR (b and c)"

/-- Two of three agree, and then all do: the panel keeps passing.  One of two agrees, and then none
does: that not all agree keeps being so. -/
theorem passes_with_more_panel :
    (let flags := [false, true, true]
      let more := [true, true, true]
      Rises flags more ∧ Expression.Undenied panel.display ∧
        passed (combine (.text "expression") flags .null panel) = true ∧
        passed (combine (.text "expression") more .null panel) = true) ∧
    let flags := [false, false]
    let more := [true, false]
    Rises flags more ∧ passed (combine (.text " NAND") more .null .null) = true ∧
      passed (combine (.text " NAND") flags .null .null) = true := by
  refine ⟨?rising, ?falling⟩
  case rising =>
    intro flags more
    have rises : Rises flags more := .cons nofun (.cons id (.cons id .nil))
    have read : Expression.ofText panel.display =
        .ok (.or (.letter 'a') (.and (.letter 'b') (.letter 'c'))) :=
      ok_of_toOption (by decide +kernel)
    have undenied : Expression.Undenied panel.display :=
      (Expression.positive_iff_undenied read).1 ⟨trivial, trivial, trivial⟩
    have spelled : Combinator.ofValue? (.text "expression") = some .boolean := by decide +kernel
    have passes : passed (combine (.text "expression") flags .null panel) = true := by
      have given : expressionOver flags.length panel = _ :=
        expressionOver_eq_ok.2 ⟨by decide, by decide, by decide +kernel, read, fun _ inside => inside⟩
      rw [combine_of_spelled spelled, passed_iff]
      exact (byExpression_eq flags panel).trans (by rw [given]; rfl)
    obtain ⟨keeps, -, -⟩ := passes_with_more spelled rises
    exact ⟨rises, undenied, passes, keeps (.inr ⟨rfl, undenied⟩) passes⟩
  case falling =>
    intro flags more
    have rises : Rises flags more := .cons nofun (.cons id .nil)
    have spelled : Combinator.ofValue? (.text " NAND") = some .nand := by decide +kernel
    have passes : passed (combine (.text " NAND") more .null .null) = true := by decide +kernel
    obtain ⟨-, keeps, -⟩ := passes_with_more spelled rises
    exact ⟨rises, passes, keeps (by simp) passes⟩

end Combination
end Eligibility
