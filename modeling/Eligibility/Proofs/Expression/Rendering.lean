/-
# Writing expressions and reading them back

An expression may be written in many ways.  `Phrase` says which tokens write it: an operand that
binds more loosely than its place asks for stands in parentheses, and anything else may.  `Spaced`
says which characters write the tokens: keywords in any casing, white space anywhere between
tokens, and some between two words.

Whatever is written so is read back as the expression that was meant (`ofText_written`).  A
phrase has a derivation of the grammar with the same tree, and the tokens of a spaced text are
found one after the other.
-/

import Mathlib
import Eligibility.Proofs.Expression.Reading

namespace Eligibility
namespace Expression

/-! ### Phrases -/

/-- The tokens that may write an expression where something has to bind with a strength: *or*
binds with strength 0, *and* with strength 1 and *not* with strength 2.  Chains need no
parentheses on their left side. -/
inductive Phrase : (strength : Nat) → Expression → List Kind → Prop where
  | letter {strength : Nat} (c : Char) : Phrase strength (.letter c) [.letter c]
  | enclosed {strength : Nat} {e : Expression} {kinds : List Kind} (inner : Phrase 0 e kinds) :
      Phrase strength e (.opening :: (kinds ++ [.closing]))
  | not {strength : Nat} {operand : Expression} {kinds : List Kind} (fits : strength ≤ 2)
      (inner : Phrase 2 operand kinds) : Phrase strength (.not operand) (.not :: kinds)
  | and {strength : Nat} {left right : Expression} {kinds later : List Kind}
      (fits : strength ≤ 1) (first : Phrase 1 left kinds) (second : Phrase 2 right later) :
      Phrase strength (.and left right) (kinds ++ .and :: later)
  | or {strength : Nat} {left right : Expression} {kinds later : List Kind}
      (fits : strength ≤ 0) (first : Phrase 0 left kinds) (second : Phrase 1 right later) :
      Phrase strength (.or left right) (kinds ++ .or :: later)

/-- A conjunction with one more negation at its end. -/
def Conjuncts.snoc (last : Negation) : Conjuncts → Conjuncts
  | .none => .more last .none
  | .more next rest => .more next (rest.snoc last)

/-- A disjunction with one more conjunction at its end. -/
def Disjuncts.snoc (last : Conjunction) : Disjuncts → Disjuncts
  | .none => .more last .none
  | .more next rest => .more next (rest.snoc last)

theorem Conjuncts.kinds_snoc (last : Negation) :
    ∀ more : Conjuncts, (more.snoc last).kinds = more.kinds ++ .and :: last.kinds
  | .none => by simp [Conjuncts.snoc, Conjuncts.kinds]
  | .more next rest => by
    rw [Conjuncts.snoc, Conjuncts.kinds, rest.kinds_snoc last, Conjuncts.kinds]
    simp

theorem Conjuncts.treeFrom_snoc (last : Negation) :
    ∀ (more : Conjuncts) (left : Expression),
      (more.snoc last).treeFrom left = .and (more.treeFrom left) last.tree
  | .none => fun _ => rfl
  | .more next rest => fun left => by
    rw [Conjuncts.snoc, Conjuncts.treeFrom, rest.treeFrom_snoc last, Conjuncts.treeFrom]

theorem Disjuncts.kinds_snoc (last : Conjunction) :
    ∀ more : Disjuncts, (more.snoc last).kinds = more.kinds ++ .or :: last.kinds
  | .none => by simp [Disjuncts.snoc, Disjuncts.kinds]
  | .more next rest => by
    rw [Disjuncts.snoc, Disjuncts.kinds, rest.kinds_snoc last, Disjuncts.kinds]
    simp

theorem Disjuncts.treeFrom_snoc (last : Conjunction) :
    ∀ (more : Disjuncts) (left : Expression),
      (more.snoc last).treeFrom left = .or (more.treeFrom left) last.tree
  | .none => fun _ => rfl
  | .more next rest => fun left => by
    rw [Disjuncts.snoc, Disjuncts.treeFrom, rest.treeFrom_snoc last, Disjuncts.treeFrom]

/-- The tokens have a derivation as a negation, with this tree. -/
def IsNegation (e : Expression) (kinds : List Kind) : Prop :=
  ∃ n : Negation, n.kinds = kinds ∧ n.tree = e

/-- The tokens have a derivation as a conjunction, with this tree. -/
def IsConjunction (e : Expression) (kinds : List Kind) : Prop :=
  ∃ c : Conjunction, c.kinds = kinds ∧ c.tree = e

/-- The tokens have a derivation as a disjunction, with this tree. -/
def IsDisjunction (e : Expression) (kinds : List Kind) : Prop :=
  ∃ d : Disjunction, d.kinds = kinds ∧ d.tree = e

theorem IsNegation.conjunction {e : Expression} {kinds : List Kind} :
    IsNegation e kinds → IsConjunction e kinds := by
  rintro ⟨n, rfl, rfl⟩
  exact ⟨.mk n .none, by simp [Conjunction.kinds, Conjuncts.kinds], rfl⟩

theorem IsConjunction.disjunction {e : Expression} {kinds : List Kind} :
    IsConjunction e kinds → IsDisjunction e kinds := by
  rintro ⟨c, rfl, rfl⟩
  exact ⟨.mk c .none, by simp [Disjunction.kinds, Disjuncts.kinds], rfl⟩

theorem IsConjunction.and {left right : Expression} {kinds later : List Kind} :
    IsConjunction left kinds → IsNegation right later →
      IsConjunction (.and left right) (kinds ++ .and :: later) := by
  rintro ⟨⟨first, more⟩, rfl, rfl⟩ ⟨last, rfl, rfl⟩
  refine ⟨.mk first (more.snoc last), ?kinds, ?tree⟩
  case kinds => simp [Conjunction.kinds, more.kinds_snoc]
  case tree => exact more.treeFrom_snoc last first.tree

theorem IsDisjunction.or {left right : Expression} {kinds later : List Kind} :
    IsDisjunction left kinds → IsConjunction right later →
      IsDisjunction (.or left right) (kinds ++ .or :: later) := by
  rintro ⟨⟨first, more⟩, rfl, rfl⟩ ⟨last, rfl, rfl⟩
  refine ⟨.mk first (more.snoc last), ?kinds, ?tree⟩
  case kinds => simp [Disjunction.kinds, more.kinds_snoc]
  case tree => exact more.treeFrom_snoc last first.tree

/-- The strength that a place asks for is the rule of the grammar that derives the phrase there. -/
theorem Phrase.derivation {strength : Nat} {e : Expression} {kinds : List Kind}
    (phrase : Phrase strength e kinds) :
    IsDisjunction e kinds ∧ (1 ≤ strength → IsConjunction e kinds) ∧
      (2 ≤ strength → IsNegation e kinds) := by
  have tight {strength : Nat} {e : Expression} {kinds : List Kind} (n : IsNegation e kinds) :
      IsDisjunction e kinds ∧ (1 ≤ strength → IsConjunction e kinds) ∧
        (2 ≤ strength → IsNegation e kinds) :=
    ⟨n.conjunction.disjunction, fun _ => n.conjunction, fun _ => n⟩
  induction phrase with
  | letter c => exact tight ⟨.atom (.letter c), rfl, rfl⟩
  | enclosed inner ih =>
    obtain ⟨d, rfl, rfl⟩ := ih.1
    exact tight ⟨.atom (.enclosed d), rfl, rfl⟩
  | not fits inner ih =>
    obtain ⟨n, rfl, rfl⟩ := ih.2.2 (by omega)
    exact tight ⟨.not n, rfl, rfl⟩
  | and fits first second ihl ihr =>
    have chain := (ihl.2.1 (by omega)).and (ihr.2.2 (by omega))
    exact ⟨chain.disjunction, fun _ => chain, fun _ => by omega⟩
  | or fits first second ihl ihr =>
    have chain := ihl.1.or (ihr.2.1 (by omega))
    exact ⟨chain, fun _ => by omega, fun _ => by omega⟩

/-! ### Words -/

/-- Whether tokens of a kind are words. -/
def Kind.isWord : Kind → Bool
  | .opening | .closing => false
  | .letter _ | .and | .or | .not => true

/-- The characters that may write a token: keywords in any casing. -/
inductive Spelled : Kind → List Char → Prop where
  | letter {c : Char} (small : c.isLower = true) : Spelled (.letter c) [c]
  | and {word : List Char} (same : word.map Char.toLower = ['a', 'n', 'd']) : Spelled .and word
  | or {word : List Char} (same : word.map Char.toLower = ['o', 'r']) : Spelled .or word
  | not {word : List Char} (same : word.map Char.toLower = ['n', 'o', 't']) : Spelled .not word
  | opening : Spelled .opening ['(']
  | closing : Spelled .closing [')']

theorem code_of_isWordChar {c : Char} (h : isWordChar c = true) :
    (65 ≤ c.toNat ∧ c.toNat ≤ 90) ∨ c.toNat = 95 ∨ (97 ≤ c.toNat ∧ c.toNat ≤ 122) := by
  rw [isWordChar, Bool.or_eq_true, beq_iff_eq] at h
  rcases h with alpha | rfl
  · simp only [Char.isAlpha, Char.isUpper, Char.isLower, Bool.or_eq_true, Bool.and_eq_true,
      decide_eq_true_eq, ge_iff_le, UInt32.le_iff_toNat_le] at alpha
    have bounds : 'A'.val.toNat = 65 ∧ 'Z'.val.toNat = 90 ∧ 'a'.val.toNat = 97 ∧
      'z'.val.toNat = 122 := by decide
    rw [Char.toNat]
    omega
  · exact .inr (.inl rfl)

theorem not_isWordChar_of_isBlank {c : Char} (blank : Text.isBlank c = true) :
    isWordChar c = false := by
  refine Bool.eq_false_iff.2 fun word => ?_
  have code := code_of_isWordChar word
  simp only [Text.isBlank, Bool.or_eq_true, Bool.and_eq_true, decide_eq_true_eq, beq_iff_eq] at blank
  omega

/-- A word is a run of word characters. -/
theorem Spelled.isWordChar {kind : Kind} {word : List Char} (spelled : Spelled kind word)
    (isWord : kind.isWord = true) : ∀ c ∈ word, isWordChar c = true := by
  have folded {word letters : List Char} (same : word.map Char.toLower = letters)
      (alpha : letters.all Char.isAlpha = true) :
      ∀ c ∈ word, Expression.isWordChar c = true := by
    intro c inside
    have folds : c.toLower ∈ letters := same ▸ List.mem_map_of_mem inside
    have := List.all_eq_true.1 alpha _ folds
    rw [Char.isAlpha_toLower_eq_isAlpha] at this
    simp [Expression.isWordChar, this]
  cases spelled with
  | letter small =>
    intro c inside
    obtain rfl := List.mem_singleton.1 inside
    simp [Expression.isWordChar, Char.isAlpha, small]
  | and same => exact folded same rfl
  | or same => exact folded same rfl
  | not same => exact folded same rfl
  | opening => cases isWord
  | closing => cases isWord

/-- A word is not empty. -/
theorem Spelled.exists_cons {kind : Kind} {word : List Char} (spelled : Spelled kind word) :
    ∃ c cs, word = c :: cs := by
  refine List.exists_cons_of_ne_nil ?_
  rintro rfl
  cases spelled with
  | and same | or same | not same => cases same

theorem wordKind_letter {c : Char} (small : c.isLower = true) :
    wordKind? [c] = some (.letter c) := by
  have every : ∀ n < 26, wordKind? [Char.ofNat (97 + n)] = some (.letter (Char.ofNat (97 + n))) := by
    decide
  have code : 97 ≤ c.toNat ∧ c.toNat ≤ 122 := by
    rw [Char.isLower, Bool.and_eq_true, decide_eq_true_eq, decide_eq_true_eq, ge_iff_le,
      UInt32.le_iff_toNat_le, UInt32.le_iff_toNat_le] at small
    exact small
  have found := every (c.toNat - 97) (by omega)
  rwa [show 97 + (c.toNat - 97) = c.toNat by omega, Char.ofNat_toNat] at found

/-- A word has the kind that it spells. -/
theorem Spelled.wordKind {kind : Kind} {word : List Char} (spelled : Spelled kind word)
    (isWord : kind.isWord = true) : wordKind? word = some kind := by
  cases spelled with
  | letter small => exact wordKind_letter small
  | and same | or same | not same =>
    unfold wordKind?
    rw [same]
    rfl
  | opening => cases isWord
  | closing => cases isWord

/-! ### Texts -/

/-- The characters that may write tokens: white space anywhere between them, and some between
two words. -/
inductive Spaced : List Kind → List Char → Prop where
  | done {blanks : List Char} (blank : ∀ b ∈ blanks, Text.isBlank b = true) : Spaced [] blanks
  | token {kind : Kind} {kinds : List Kind} {blanks word rest : List Char}
      (blank : ∀ b ∈ blanks, Text.isBlank b = true) (spelled : Spelled kind word)
      (apart : kind.isWord = true → (∃ next ∈ kinds.head?, next.isWord = true) →
        ∃ b ∈ rest.head?, Text.isBlank b = true)
      (more : Spaced kinds rest) : Spaced (kind :: kinds) (blanks ++ word ++ rest)

/-- The texts that may write an expression. -/
def Written (e : Expression) (s : String) : Prop :=
  ∃ kinds, Phrase 0 e kinds ∧ Spaced kinds s.toList

theorem tokensFrom_blanks {blanks : List Char} (blank : ∀ b ∈ blanks, Text.isBlank b = true)
    (position : Nat) (cs : List Char) :
    tokensFrom position (blanks ++ cs) = tokensFrom (position + blanks.length) cs := by
  induction blanks generalizing position with
  | nil => rfl
  | cons b blanks ih =>
    rw [List.cons_append, tokensFrom, if_pos (blank b (by simp)),
      ih (fun c inside => blank c (by simp [inside])), List.length_cons]
    congr 1
    omega

/-- A word ends where no word character follows. -/
theorem tokensFrom_word {kind : Kind} {word rest : List Char} (spelled : Spelled kind word)
    (isWord : kind.isWord = true) (ends : ∀ c ∈ rest.head?, isWordChar c = false)
    (position : Nat) {tokens : List Token}
    (later : tokensFrom (position + word.length) rest = .ok tokens) :
    tokensFrom position (word ++ rest) =
      .ok (⟨kind, String.ofList word, position⟩ :: tokens) := by
  have chars := spelled.isWordChar isWord
  have found := spelled.wordKind isWord
  obtain ⟨c, cs, rfl⟩ := spelled.exists_cons
  have starts : isWordChar c = true := chars c (by simp)
  have notBlank : ¬Text.isBlank c = true := fun blank => by
    rw [not_isWordChar_of_isBlank blank] at starts
    cases starts
  have stop : rest.takeWhile isWordChar = [] ∧ rest.dropWhile isWordChar = rest := by
    cases rest with
    | nil => exact ⟨rfl, rfl⟩
    | cons b rest => simp [ends b rfl]
  have inner : ∀ d ∈ cs, isWordChar d = true := fun d inside => chars d (by simp [inside])
  have taken : (cs ++ rest).takeWhile isWordChar = cs := by
    rw [List.takeWhile_append_of_pos inner, stop.1, List.append_nil]
  have dropped : (cs ++ rest).dropWhile isWordChar = rest := by
    rw [List.dropWhile_append_of_pos inner, stop.2]
  have notOpening : c ≠ '(' := by rintro rfl; cases starts
  have notClosing : c ≠ ')' := by rintro rfl; cases starts
  rw [List.cons_append, tokensFrom, if_neg notBlank, if_neg notOpening, if_neg notClosing,
    if_pos starts]
  simp only [taken, dropped, found, later]
  rfl

/-- A spaced text does not begin with a word character unless a word comes first. -/
theorem Spaced.head_not_isWordChar {kinds : List Kind} {cs : List Char} (spaced : Spaced kinds cs)
    (other : (∃ next ∈ kinds.head?, next.isWord = true) →
      ∃ b ∈ cs.head?, Text.isBlank b = true) :
    ∀ c ∈ cs.head?, isWordChar c = false := by
  intro c first
  cases spaced with
  | done blank => exact not_isWordChar_of_isBlank (blank c (List.mem_of_mem_head? first))
  | @token kind kinds blanks word rest blank spelled apart more =>
    cases blanks with
    | cons b blanks =>
      obtain rfl : b = c := by simpa using first
      exact not_isWordChar_of_isBlank (blank b (by simp))
    | nil =>
      cases isWord : kind.isWord with
      | true =>
        obtain ⟨b, same, blank⟩ := other ⟨kind, rfl, isWord⟩
        obtain rfl : b = c := Option.mem_unique same first
        exact not_isWordChar_of_isBlank blank
      | false =>
        cases spelled with
        | opening => obtain rfl : '(' = c := by simpa using first
                     decide
        | closing => obtain rfl : ')' = c := by simpa using first
                     decide
        | letter | and | or | not => cases isWord

/-- The tokens of a spaced text are those that it writes. -/
theorem tokensFrom_spaced {kinds : List Kind} {cs : List Char} (spaced : Spaced kinds cs) :
    ∀ position, ∃ tokens, tokensFrom position cs = .ok tokens ∧ kindsOf tokens = kinds := by
  induction spaced with
  | @done blanks blank =>
    intro position
    refine ⟨[], ?_, rfl⟩
    rw [← List.append_nil blanks, tokensFrom_blanks blank, tokensFrom]
  | @token kind kinds blanks word rest blank spelled apart more ih =>
    intro position
    obtain ⟨tokens, later, rfl⟩ := ih (position + blanks.length + word.length)
    refine ⟨⟨kind, String.ofList word, position + blanks.length⟩ :: tokens, ?_, rfl⟩
    rw [List.append_assoc, tokensFrom_blanks blank]
    cases isWord : kind.isWord with
    | true =>
      exact tokensFrom_word spelled isWord (more.head_not_isWordChar (apart isWord)) _ later
    | false =>
      cases spelled with
      | opening =>
        rw [List.cons_append, tokensFrom, if_neg (by decide), if_pos rfl]
        exact congrArg (· >>= _) later
      | closing =>
        rw [List.cons_append, tokensFrom, if_neg (by decide), if_neg (by decide), if_pos rfl]
        exact congrArg (· >>= _) later
      | letter | and | or | not => cases isWord

/-! ### A plain writing -/

/-- Kinds in parentheses where that is asked for. -/
def enclosedIf (needed : Bool) (kinds : List Kind) : List Kind :=
  if needed then .opening :: (kinds ++ [.closing]) else kinds

/-- The tokens of an expression with the fewest parentheses. -/
def kindsAt (strength : Nat) : Expression → List Kind
  | .letter c => [.letter c]
  | .not operand => enclosedIf (2 < strength) (.not :: operand.kindsAt 2)
  | .and left right => enclosedIf (1 < strength) (left.kindsAt 1 ++ .and :: right.kindsAt 2)
  | .or left right => enclosedIf (0 < strength) (left.kindsAt 0 ++ .or :: right.kindsAt 1)

/-- The usual spelling of a token. -/
def Kind.word : Kind → List Char
  | .letter c => [c]
  | .and => ['a', 'n', 'd']
  | .or => ['o', 'r']
  | .not => ['n', 'o', 't']
  | .opening => ['(']
  | .closing => [')']

/-- Tokens with one blank between neighbours. -/
def spacedOut : List Kind → List Char
  | [] => []
  | [kind] => kind.word
  | kind :: next :: kinds => kind.word ++ ' ' :: spacedOut (next :: kinds)

/-- An expression as a text. -/
def print (e : Expression) : String := String.ofList (spacedOut (e.kindsAt 0))

theorem Phrase.enclosedIf {e : Expression} {kinds : List Kind} {strength most : Nat}
    (loose : ∀ {strength}, strength ≤ most → Phrase strength e kinds) :
    Phrase strength e (enclosedIf (most < strength) kinds) := by
  rw [Expression.enclosedIf]
  split
  · exact .enclosed (loose (Nat.zero_le _))
  · next fits => exact loose (by simpa using fits)

theorem phrase_kindsAt (e : Expression) : ∀ strength, Phrase strength e (e.kindsAt strength) := by
  induction e with
  | letter c => exact fun _ => .letter c
  | not operand ih => exact fun _ => .enclosedIf fun fits => .not fits (ih 2)
  | and left right ihl ihr => exact fun _ => .enclosedIf fun fits => .and fits (ihl 1) (ihr 2)
  | or left right ihl ihr => exact fun _ => .enclosedIf fun fits => .or fits (ihl 0) (ihr 1)

theorem letter_mem_kindsAt {e : Expression} {c : Char} :
    ∀ {strength : Nat}, Kind.letter c ∈ e.kindsAt strength → c ∈ e.occurrences := by
  intro strength member
  obtain ⟨d, same, rfl⟩ := (phrase_kindsAt e strength).derivation.1
  exact (d.mem_occurrences c).2 (same ▸ member)

theorem Kind.spelled_word {kind : Kind} (small : ∀ c, kind = .letter c → c.isLower = true) :
    Spelled kind kind.word := by
  cases kind with
  | letter c => exact .letter (small c rfl)
  | and => exact .and (by decide)
  | or => exact .or (by decide)
  | not => exact .not (by decide)
  | opening => exact .opening
  | closing => exact .closing

theorem Spaced.blank {kinds : List Kind} {cs : List Char} {b : Char}
    (isBlank : Text.isBlank b = true) (spaced : Spaced kinds cs) : Spaced kinds (b :: cs) := by
  cases spaced with
  | done blank => exact .done (by simpa [isBlank] using blank)
  | @token kind kinds blanks word rest blank spelled apart more =>
    have all : ∀ c ∈ b :: blanks, Text.isBlank c = true := by simpa [isBlank] using blank
    exact .token all spelled apart more

theorem spaced_spacedOut :
    ∀ kinds : List Kind, (∀ c, .letter c ∈ kinds → c.isLower = true) →
      Spaced kinds (spacedOut kinds)
  | [], _ => .done (by simp [spacedOut])
  | [kind], small => by
    have spelled : Spelled kind kind.word :=
      Kind.spelled_word fun c same => small c (by simp [same])
    have alone : Spaced [kind] ([] ++ kind.word ++ []) :=
      .token (by simp) spelled (by simp) (.done (by simp))
    simpa [spacedOut] using alone
  | kind :: next :: kinds, small => by
    have spelled : Spelled kind kind.word :=
      Kind.spelled_word fun c same => small c (by simp [same])
    have later : Spaced (next :: kinds) (' ' :: spacedOut (next :: kinds)) :=
      .blank (by decide) (spaced_spacedOut _ fun c member => small c (List.mem_cons_of_mem _ member))
    have all : Spaced (kind :: next :: kinds) ([] ++ kind.word ++ ' ' :: spacedOut (next :: kinds)) :=
      .token (by simp) spelled (fun _ _ => ⟨' ', rfl, by decide⟩) later
    simpa [spacedOut] using all

/-! ### Reading back -/

theorem ofText_of_written {e : Expression} {s : String} (written : Written e s) :
    ofText s = .ok e := by
  obtain ⟨kinds, phrase, spaced⟩ := written
  obtain ⟨tokens, found, rfl⟩ := tokensFrom_spaced spaced 0
  obtain ⟨d, same, rfl⟩ := phrase.derivation.1
  have read := ofTokens_of_kinds same
  exact bind_eq_ok.2 ⟨tokens, found, read⟩

/-- **Writing and reading back changes nothing.**  An expression over small letters can be
written, and each of its writings is read as that expression, with its letters. -/
theorem ofText_written (e : Expression) (small : ∀ c ∈ e.occurrences, c.isLower = true) :
    Written e e.print ∧
      ∀ s, Written e s → ofText s = .ok e ∧ ∀ c, c ∈ e.letters ↔ c ∈ e.occurrences := by
  refine ⟨⟨e.kindsAt 0, phrase_kindsAt e 0, ?_⟩, fun s written => ⟨ofText_of_written written, ?_⟩⟩
  · rw [print, String.toList_ofList]
    exact spaced_spacedOut _ fun c member => small c (letter_mem_kindsAt member)
  · exact fun c => mem_letters

/-- A disjunction nested to the right keeps its parentheses. -/
theorem ofText_written_nested :
    let e : Expression := .or (.letter 'a') (.or (.letter 'b') (.not (.letter 'a')))
    (∀ c ∈ e.occurrences, c.isLower = true) ∧ Written e "a OR(b\n or nOt(a)) " ∧
      ofText "a OR(b\n or nOt(a)) " = .ok e := by
  intro e
  have small : ∀ c ∈ e.occurrences, c.isLower = true := List.all_eq_true.1 rfl
  have phrase : Phrase 0 e [.letter 'a', .or, .opening, .letter 'b', .or, .not, .opening,
      .letter 'a', .closing, .closing] :=
    .or (Nat.le_refl 0) (.letter 'a') <| .enclosed <|
      .or (Nat.le_refl 0) (.letter 'b') (.not (by decide) (.enclosed (.letter 'a')))
  have spaced : Spaced [.letter 'a', .or, .opening, .letter 'b', .or, .not, .opening,
      .letter 'a', .closing, .closing] ([] ++ ['a'] ++ ([' '] ++ ['O', 'R'] ++ ([] ++ ['('] ++
        ([] ++ ['b'] ++ (['\n', ' '] ++ ['o', 'r'] ++ ([' '] ++ ['n', 'O', 't'] ++ ([] ++ ['('] ++
          ([] ++ ['a'] ++ ([] ++ [')'] ++ ([] ++ [')'] ++ [' '])))))))))) := by
    refine .token (List.all_eq_true.1 rfl) (.letter rfl) (fun _ _ => ⟨' ', rfl, rfl⟩) ?_
    refine .token (List.all_eq_true.1 rfl) (.or rfl) (by simp [Kind.isWord]) ?_
    refine .token (List.all_eq_true.1 rfl) .opening nofun ?_
    refine .token (List.all_eq_true.1 rfl) (.letter rfl) (fun _ _ => ⟨'\n', rfl, rfl⟩) ?_
    refine .token (List.all_eq_true.1 rfl) (.or rfl) (fun _ _ => ⟨' ', rfl, rfl⟩) ?_
    refine .token (List.all_eq_true.1 rfl) (.not rfl) (by simp [Kind.isWord]) ?_
    refine .token (List.all_eq_true.1 rfl) .opening nofun ?_
    refine .token (List.all_eq_true.1 rfl) (.letter rfl) (by simp [Kind.isWord]) ?_
    refine .token (List.all_eq_true.1 rfl) .closing nofun ?_
    exact .token (List.all_eq_true.1 rfl) .closing nofun (.done (List.all_eq_true.1 rfl))
  have written : Written e "a OR(b\n or nOt(a)) " := ⟨_, phrase, spaced⟩
  exact ⟨small, written, ((ofText_written e small).2 _ written).1⟩

end Expression
end Eligibility
