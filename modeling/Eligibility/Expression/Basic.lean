/-
# Boolean expressions

An expression combines letters by *not*, *and* and *or*.  A letter stands for the outcome of the
rule or group at its place in the alphabet.
-/

namespace Eligibility

/-- A boolean expression. -/
inductive Expression where
  | letter (c : Char)
  | not (operand : Expression)
  | and (left right : Expression)
  | or (left right : Expression)
  deriving DecidableEq

namespace Expression

/-- The truth of an expression, given that of the letters. -/
def eval (truth : Char → Bool) : Expression → Bool
  | letter c => truth c
  | not operand => !operand.eval truth
  | and left right => left.eval truth && right.eval truth
  | or left right => left.eval truth || right.eval truth

/-- The letters as they occur, from left to right. -/
def occurrences : Expression → List Char
  | letter c => [c]
  | not operand => operand.occurrences
  | and left right => left.occurrences ++ right.occurrences
  | or left right => left.occurrences ++ right.occurrences

/-- The letters of an expression in alphabetical order, each once. -/
def letters (e : Expression) : List Char := e.occurrences.eraseDups.mergeSort (· ≤ ·)

/-- Only the letters of an expression matter for its truth. -/
theorem eval_congr {truth other : Char → Bool} {e : Expression}
    (same : ∀ c ∈ e.occurrences, truth c = other c) : e.eval truth = e.eval other := by
  induction e with
  | letter c => exact same c (by simp [occurrences])
  | not operand ih =>
    have := ih fun c hc => same c (by simpa [occurrences] using hc)
    simp [eval, this]
  | and left right ihl ihr =>
    have hl := ihl fun c hc => same c (by simp [occurrences, hc])
    have hr := ihr fun c hc => same c (by simp [occurrences, hc])
    simp [eval, hl, hr]
  | or left right ihl ihr =>
    have hl := ihl fun c hc => same c (by simp [occurrences, hc])
    have hr := ihr fun c hc => same c (by simp [occurrences, hc])
    simp [eval, hl, hr]

end Expression
end Eligibility
