/-
# Finding tokens by a pattern

Tokens are also what one pattern finds when it is matched again and again, each time from where the
last match has ended: white space, and behind it a parenthesis, a word or any other character
(`tokenText`).  White space at the end of the text is cut off before, so a match fails only past the
last token.

The two ways agree (`tokenizeBy_eq`).  A match from any place takes the white space there and then
just what stands behind it, without going back (`lexeme?_eq`).  Something always does: the
characters that the pattern counts as white space are those that are cut off (`space_has`).
-/

import Eligibility.Expression.Token
import Eligibility.Pattern.Reader
import Eligibility.Proofs.Expression.Rendering
import Eligibility.Proofs.Pattern.Greedy

namespace Eligibility
namespace Expression

open Pattern

/-! ### The pattern -/

/-- The pattern of tokens. -/
def tokenText : String :=
  "\\s*(?:(?P<lparen>\\()|(?P<rparen>\\))|(?P<word>[A-Za-z_]+)|(?P<other>\\S))"

/-- What the text of the pattern stands for. -/
def tokenPattern : Pattern := (Pattern.ofText tokenText).toOption.getD ⟨"", {}, 0, []⟩

/-- A part that is captured under a number. -/
def capture (group : Nat) (node : Node) : List Node := [.group (some group) {} {} [node]]

/-- A character of a word. -/
def wordItems : List SetItem := [.range 65 90, .range 97 122, .literal 95]

/-- What may stand behind white space, each under its number. -/
def tokenBranches : List (List Node) := [
  capture 1 (.literal false 40),
  capture 2 (.literal false 41),
  capture 3 (.repeated .greedy 1 none [.set false wordItems]),
  capture 4 (.set false [.category .space true])]

/-- White space, and what stands behind it. -/
def tokenBody : List Node :=
  [.repeated .greedy 0 none [.set false [.category .space false]], .alternatives tokenBranches]

/-- Whether parts are those of the pattern of tokens. -/
def isTokenBody : List Node → Bool
  | [.repeated .greedy 0 none [.set false blanks], .alternatives [
      [.group (some 1) a b [.literal false 40]],
      [.group (some 2) c d [.literal false 41]],
      [.group (some 3) e f [.repeated .greedy 1 none [.set false chars]]],
      [.group (some 4) g h [.set false others]]]] =>
    decide (blanks = [.category .space false]) && decide (chars = wordItems) &&
      decide (others = [.category .space true]) && [a, b, c, d, e, f, g, h].all (· = {})
  | _ => false

theorem eq_tokenBody {body : List Node} (same : isTokenBody body = true) : body = tokenBody := by
  unfold isTokenBody at same
  split at same
  · simp only [List.all_cons, List.all_nil, Bool.and_eq_true, decide_eq_true_eq] at same
    simp [tokenBody, tokenBranches, capture, same]
  · cases same

/-- The switches of the pattern: its classes are those of all scripts. -/
abbrev tokenSwitches : Switches := { unicode := true }

/-- The text of the pattern reads as these parts. -/
theorem tokenPattern_parts : tokenPattern.switches = tokenSwitches ∧ tokenPattern.groups = 4 ∧
    tokenPattern.body = tokenBody := by
  have read : (decide (tokenPattern.switches = tokenSwitches) &&
      decide (tokenPattern.groups = 4) && isTokenBody tokenPattern.body) = true := by
    decide +kernel
  simp only [Bool.and_eq_true, decide_eq_true_eq] at read
  exact ⟨read.1.1, read.1.2, eq_tokenBody read.2⟩

/-! ### What a match finds -/

/-- What a match has found: the number that something is captured under, where that starts and
stops, and where the match ends. -/
structure Lexeme where
  group : Nat
  start : Nat
  stop : Nat
  next : Nat
  deriving DecidableEq

/-- What is captured by a match. -/
def Lexeme.ofProgress? (progress : Progress) : Option Lexeme :=
  [1, 2, 3, 4].findSome? fun group =>
    (progress.captured? group).map fun (start, stop) => ⟨group, start, stop, progress.pos⟩

/-- What a match from a place finds. -/
def lexeme? (cs : List Char) (place : Nat) : Option Lexeme :=
  (tokenPattern.matchAt? cs.toArray place).bind Lexeme.ofProgress?

/-- What stands at a place where there is a character other than white space: a parenthesis, the
whole word that begins there, or that character. -/
def Lexeme.standing (start : Nat) (c : Char) (rest : List Char) : Lexeme :=
  if c = '(' then ⟨1, start, start + 1, start + 1⟩
  else if c = ')' then ⟨2, start, start + 1, start + 1⟩
  else if isWordChar c then
    let stop := start + (c :: rest.takeWhile isWordChar).length
    ⟨3, start, stop, stop⟩
  else ⟨4, start, start + 1, start + 1⟩

/-- The characters that the pattern counts as white space are those that are cut off. -/
theorem space_has : (fun c => [SetItem.category .space false].any (·.has tokenSwitches c) != false)
    = Text.isBlank := by
  funext c
  simp [SetItem.has, Category.has]

theorem isWordChar_of_code {c : Char} (code : (65 ≤ c.toNat ∧ c.toNat ≤ 90) ∨ c.toNat = 95 ∨
    (97 ≤ c.toNat ∧ c.toNat ≤ 122)) : isWordChar c = true := by
  rw [isWordChar, Bool.or_eq_true, beq_iff_eq]
  simp only [Char.isAlpha, Char.isUpper, Char.isLower, Bool.or_eq_true, Bool.and_eq_true,
    decide_eq_true_eq, ge_iff_le, UInt32.le_iff_toNat_le]
  rcases code with upper | low | lower
  · exact .inl (.inl upper)
  · exact .inr (Char.toNat_inj.1 low)
  · exact .inl (.inr lower)

theorem word_has : (fun c => wordItems.any (·.has tokenSwitches c) != false) = isWordChar := by
  funext c
  rw [Bool.eq_iff_iff]
  have same : (wordItems.any (·.has tokenSwitches c) != false) = true ↔
      (65 ≤ c.toNat ∧ c.toNat ≤ 90) ∨ c.toNat = 95 ∨ (97 ≤ c.toNat ∧ c.toNat ≤ 122) := by
    simp [wordItems, SetItem.has]
    tauto
  rw [same]
  exact ⟨isWordChar_of_code, code_of_isWordChar⟩

/-- The marks before anything is captured. -/
abbrev unmarked : Array (Option Nat) := Array.replicate 8 none

/-- How far a match has come when something is captured from one place to another. -/
def captured (group start stop : Nat) : Progress :=
  let entered := Progress.mark group false ⟨start, unmarked⟩
  Progress.mark group true { entered with pos := stop }

theorem Lexeme.ofProgress?_captured {group start stop : Nat} (known : group ∈ [1, 2, 3, 4])
    (ordered : start ≤ stop) :
    Lexeme.ofProgress? (captured group start stop) = some ⟨group, start, stop, stop⟩ := by
  simp only [List.mem_cons, List.not_mem_nil, or_false] at known
  rcases known with rfl | rfl | rfl | rfl <;>
    simp [Lexeme.ofProgress?, captured, Progress.captured?, Progress.mark, ordered]

variable {cs blanks rest : List Char} {c : Char} {start place : Nat}

/-- A branch of one character takes it when it is of the class. -/
theorem branch_of_has {group : Nat} {node : Node} {p : Char → Bool}
    (single : ∀ k, matchNode cs.toArray tokenSwitches node k = step cs.toArray p k)
    (stands : cs.drop start = c :: rest) (has : p c = true) :
    matchSequence cs.toArray tokenSwitches (capture group node) some ⟨start, unmarked⟩ =
      some (captured group start (start + 1)) := by
  change matchNode cs.toArray tokenSwitches node (fun q => some (q.mark group true))
    (Progress.mark group false ⟨start, unmarked⟩) = _
  rw [single]
  exact step_of_has stands has

theorem branch_of_lacks {group : Nat} {node : Node} {p : Char → Bool}
    (single : ∀ k, matchNode cs.toArray tokenSwitches node k = step cs.toArray p k)
    (stands : cs.drop start = c :: rest) (lacks : p c = false) :
    matchSequence cs.toArray tokenSwitches (capture group node) some ⟨start, unmarked⟩ = none := by
  change matchNode cs.toArray tokenSwitches node (fun q => some (q.mark group true))
    (Progress.mark group false ⟨start, unmarked⟩) = _
  rw [single]
  exact step_of_lacks stands (by simpa using lacks)

theorem literal_single (code : Nat) (k : Continuation) :
    matchNode cs.toArray tokenSwitches (.literal false code) k =
      step cs.toArray (fun c => c.toNat == code) k := by
  simp [matchNode, matchesCode]

theorem other_single (k : Continuation) :
    matchNode cs.toArray tokenSwitches (.set false [.category .space true]) k =
      step cs.toArray (fun c => !Text.isBlank c) k := by
  simp [matchNode, SetItem.has, Category.has]

/-- What is dropped ends where the class does. -/
theorem head_dropWhile {p : Char → Bool} (cs : List Char) :
    ∀ c ∈ (cs.dropWhile p).head?, p c = false := by
  intro c first
  have stops := List.head?_dropWhile_not p cs
  rwa [Option.mem_def.1 first] at stops

/-- A word ends where no word character follows. -/
theorem cons_eq_word_append (c : Char) (rest : List Char) :
    c :: rest = (c :: rest.takeWhile isWordChar) ++ rest.dropWhile isWordChar := by
  rw [List.cons_append, List.takeWhile_append_dropWhile]

theorem isWordChar_of_mem_word {rest : List Char} (starts : isWordChar c = true) :
    ∀ d ∈ c :: rest.takeWhile isWordChar, isWordChar d = true := by
  intro d inside
  rcases List.mem_cons.1 inside with rfl | taken
  · exact starts
  · exact List.all_eq_true.1 List.all_takeWhile d taken

/-- The branch of words takes the whole word. -/
theorem branch_word (stands : cs.drop start = c :: rest) (word : isWordChar c = true) :
    matchSequence cs.toArray tokenSwitches
      (capture 3 (.repeated .greedy 1 none [.set false wordItems])) some ⟨start, unmarked⟩ =
      some (captured 3 start (start + (c :: rest.takeWhile isWordChar).length)) := by
  change mostFirst (step cs.toArray fun c => wordItems.any (·.has tokenSwitches c) != false) 1 none
    (fun q => some (q.mark 3 true)) (1 + (cs.toArray.size - start) + 3) 0 none
    (Progress.mark 3 false ⟨start, unmarked⟩) = _
  rw [word_has]
  refine mostFirst_run (stands.trans (cons_eq_word_append c rest)) ?all ?ends rfl ?enough ?before
    ?fuelled
  case all => exact isWordChar_of_mem_word word
  case ends => exact head_dropWhile rest
  case enough => simp
  case before => simp
  case fuelled =>
    have shorter : (rest.takeWhile isWordChar).length ≤ rest.length :=
      (List.takeWhile_prefix _).length_le
    have left : cs.length - start = rest.length + 1 := by
      rw [← List.length_drop, stands, List.length_cons]
    rw [List.length_cons, List.size_toArray]
    omega

theorem branch_no_word (stands : cs.drop start = c :: rest) (word : isWordChar c = false) :
    matchSequence cs.toArray tokenSwitches
      (capture 3 (.repeated .greedy 1 none [.set false wordItems])) some ⟨start, unmarked⟩ =
      none := by
  change mostFirst (step cs.toArray fun c => wordItems.any (·.has tokenSwitches c) != false) 1 none
    (fun q => some (q.mark 3 true)) (1 + (cs.toArray.size - start) + 3) 0 none
    (Progress.mark 3 false ⟨start, unmarked⟩) = _
  rw [word_has, mostFirst, if_pos Nat.zero_lt_one]
  exact step_of_lacks stands (by simpa using word)

/-- Where a character other than white space stands, what stands there is captured. -/
theorem branches_standing (stands : cs.drop start = c :: rest) (solid : Text.isBlank c = false) :
    ∃ found, matchSequence cs.toArray tokenSwitches [.alternatives tokenBranches] some
        ⟨start, unmarked⟩ = some found ∧
      Lexeme.ofProgress? found = some (Lexeme.standing start c rest) := by
  change ∃ found, matchBranches cs.toArray tokenSwitches tokenBranches some ⟨start, unmarked⟩ =
    some found ∧ _
  have opening : c.toNat = 40 ↔ c = '(' := Char.toNat_inj (d := '(')
  have closing : c.toNat = 41 ↔ c = ')' := Char.toNat_inj (d := ')')
  rw [Lexeme.standing]
  by_cases isOpening : c = '('
  · refine ⟨_, matchBranches_of_some
      (branch_of_has (literal_single 40) stands (by simpa using opening.2 isOpening)), ?_⟩
    rw [if_pos isOpening, Lexeme.ofProgress?_captured (by simp) (Nat.le_succ start)]
  rw [if_neg isOpening, tokenBranches, matchBranches_of_none
    (branch_of_lacks (literal_single 40) stands (by simpa using mt opening.1 isOpening))]
  by_cases isClosing : c = ')'
  · refine ⟨_, matchBranches_of_some
      (branch_of_has (literal_single 41) stands (by simpa using closing.2 isClosing)), ?_⟩
    rw [if_pos isClosing, Lexeme.ofProgress?_captured (by simp) (Nat.le_succ start)]
  rw [if_neg isClosing, matchBranches_of_none
    (branch_of_lacks (literal_single 41) stands (by simpa using mt closing.1 isClosing))]
  by_cases word : isWordChar c = true
  · refine ⟨_, matchBranches_of_some (branch_word stands word), ?_⟩
    rw [if_pos word, Lexeme.ofProgress?_captured (by simp) (Nat.le_add_right ..)]
  rw [if_neg word, matchBranches_of_none (branch_no_word stands (Bool.eq_false_iff.2 word))]
  refine ⟨_, matchBranches_of_some (branch_of_has other_single stands (by simpa using solid)), ?_⟩
  rw [Lexeme.ofProgress?_captured (by simp) (Nat.le_succ start)]

/-- **A match takes the white space** at a place and what stands behind it. -/
theorem lexeme?_eq (stands : cs.drop place = blanks ++ c :: rest)
    (blank : ∀ b ∈ blanks, Text.isBlank b = true) (solid : Text.isBlank c = false) :
    lexeme? cs place = some (Lexeme.standing (place + blanks.length) c rest) := by
  obtain ⟨switches, groups, body⟩ := tokenPattern_parts
  have behind : cs.drop (place + blanks.length) = c :: rest := by
    rw [← List.drop_drop, stands, List.drop_left]
  obtain ⟨found, taken, lexeme⟩ := branches_standing behind solid
  have run : tokenPattern.matchAt? cs.toArray place = some found := by
    rw [Pattern.matchAt?, switches, groups, body]
    change mostFirst (step cs.toArray fun c =>
      [SetItem.category .space false].any (·.has tokenSwitches c) != false) 0 none
      (matchSequence cs.toArray tokenSwitches [.alternatives tokenBranches] some)
      (0 + (cs.toArray.size - place) + 3) 0 none ⟨place, unmarked⟩ = _
    rw [space_has]
    refine mostFirst_run stands blank ?ends taken (Nat.zero_le _) ?before ?fuelled
    case ends => simpa using solid
    case before => simp
    case fuelled =>
      have left : cs.length - place = blanks.length + (rest.length + 1) := by
        rw [← List.length_drop, stands, List.length_append, List.length_cons]
      rw [List.size_toArray]
      omega
  rw [lexeme?, run, Option.bind_some, lexeme]

/-! ### The loop -/

/-- The tokens that are found from a place on, in so many rounds.  There is no answer when a match
fails before the end of the text, or when the rounds do not suffice. -/
def tokensBy (cs : List Char) : (rounds : Nat) → (place : Nat) → Option (Except Fault (List Token))
  | 0, _ => none
  | rounds + 1, place =>
    if place < cs.length then
      match lexeme? cs place with
      | none => none
      | some found =>
        let shown := (cs.drop found.start).take (found.stop - found.start)
        let others := tokensBy cs rounds found.next
        match found.group with
        | 1 => others.map (·.map (⟨.opening, "(", found.start⟩ :: ·))
        | 2 => others.map (·.map (⟨.closing, ")", found.start⟩ :: ·))
        | 3 =>
          match wordKind? shown with
          | some kind => others.map (·.map (⟨kind, String.ofList shown, found.start⟩ :: ·))
          | none => some (.error (.unknownToken (String.ofList shown) found.start))
        | _ => some (.error (.unknownToken (String.ofList shown) found.start))
    else some (.ok [])

/-- The tokens of a text by the pattern, after white space is cut off at the end. -/
def tokenizeBy (s : String) : Option (Except Fault (List Token)) :=
  let cs := Text.trimEndBy Text.isBlank s.toList
  tokensBy cs (cs.length + 1) 0

/-! ### What the tokens of a text begin with -/

/-- A token, and those that are found behind it. -/
theorem return_cons (token : Token) (others : Except Fault (List Token)) :
    (do return token :: (← others)) = others.map (token :: ·) := by
  cases others <;> rfl

theorem tokensFrom_opening (position : Nat) (rest : List Char) :
    tokensFrom position ('(' :: rest) =
      (tokensFrom (position + 1) rest).map (⟨.opening, "(", position⟩ :: ·) := by
  rw [tokensFrom, if_neg (by decide), if_pos rfl, return_cons]

theorem tokensFrom_closing (position : Nat) (rest : List Char) :
    tokensFrom position (')' :: rest) =
      (tokensFrom (position + 1) rest).map (⟨.closing, ")", position⟩ :: ·) := by
  rw [tokensFrom, if_neg (by decide), if_neg (by decide), if_pos rfl, return_cons]

theorem solid_of_isWordChar (isWord : isWordChar c = true) : Text.isBlank c = false := by
  refine Bool.eq_false_iff.2 fun blank => ?_
  rw [not_isWordChar_of_isBlank blank] at isWord
  cases isWord

theorem not_parenthesis_of_isWordChar (isWord : isWordChar c = true) : c ≠ '(' ∧ c ≠ ')' := by
  constructor <;> rintro rfl <;> cases isWord

theorem tokensFrom_known {kind : Kind} (position : Nat) (isWord : isWordChar c = true)
    (known : wordKind? (c :: rest.takeWhile isWordChar) = some kind) :
    tokensFrom position (c :: rest) =
      (tokensFrom (position + (c :: rest.takeWhile isWordChar).length)
        (rest.dropWhile isWordChar)).map
          (⟨kind, String.ofList (c :: rest.takeWhile isWordChar), position⟩ :: ·) := by
  obtain ⟨notOpening, notClosing⟩ := not_parenthesis_of_isWordChar isWord
  rw [tokensFrom, if_neg (Bool.eq_false_iff.1 (solid_of_isWordChar isWord)), if_neg notOpening,
    if_neg notClosing, if_pos isWord]
  simp only [known]
  exact return_cons _ _

theorem tokensFrom_unknown (position : Nat) (isWord : isWordChar c = true)
    (unknown : wordKind? (c :: rest.takeWhile isWordChar) = none) :
    tokensFrom position (c :: rest) =
      .error (.unknownToken (String.ofList (c :: rest.takeWhile isWordChar)) position) := by
  obtain ⟨notOpening, notClosing⟩ := not_parenthesis_of_isWordChar isWord
  rw [tokensFrom, if_neg (Bool.eq_false_iff.1 (solid_of_isWordChar isWord)), if_neg notOpening,
    if_neg notClosing, if_pos isWord]
  simp only [unknown]

theorem tokensFrom_stray (position : Nat) (rest : List Char) (solid : ¬Text.isBlank c = true)
    (notOpening : c ≠ '(') (notClosing : c ≠ ')') (other : ¬isWordChar c = true) :
    tokensFrom position (c :: rest) =
      .error (.unknownToken (String.ofList [c]) position) := by
  rw [tokensFrom, if_neg solid, if_neg notOpening, if_neg notClosing, if_neg other]

/-! ### The tokens that are found -/

/-- Characters of which the last is no white space begin with white space and another character. -/
theorem exists_solid {cs : List Char} (nonempty : cs ≠ [])
    (ends : ∀ c ∈ cs.getLast?, Text.isBlank c = false) :
    ∃ blanks c rest, cs = blanks ++ c :: rest ∧ (∀ b ∈ blanks, Text.isBlank b = true) ∧
      Text.isBlank c = false := by
  cases behind : cs.dropWhile Text.isBlank with
  | nil =>
    have last := ends _ (List.getLast?_eq_some_getLast nonempty)
    rw [List.dropWhile_eq_nil_iff.1 behind _ (List.getLast_mem nonempty)] at last
    cases last
  | cons c rest =>
    refine ⟨cs.takeWhile Text.isBlank, c, rest, ?_, List.all_eq_true.1 List.all_takeWhile,
      head_dropWhile cs c (by rw [behind]; rfl)⟩
    rw [← behind, List.takeWhile_append_dropWhile]

/-- **The loop finds the tokens** of what is left at a place. -/
theorem tokensBy_eq (ends : ∀ c ∈ cs.getLast?, Text.isBlank c = false) {rounds : Nat}
    (enough : cs.length - place < rounds) :
    tokensBy cs rounds place = some (tokensFrom place (cs.drop place)) := by
  induction rounds generalizing place with
  | zero => omega
  | succ rounds ih =>
    rw [tokensBy]
    split
    case isFalse past =>
      rw [List.drop_eq_nil_iff.2 (by omega), tokensFrom]
    case isTrue inside =>
      obtain ⟨blanks, c, rest, stands, blank, solid⟩ := exists_solid
        (show cs.drop place ≠ [] by simpa using inside) (by
          rw [List.getLast?_drop, if_neg (by omega)]
          exact ends)
      have behind : cs.drop (place + blanks.length) = c :: rest := by
        rw [← List.drop_drop, stands, List.drop_left]
      have later {stop : Nat} (further : place < stop) :
          tokensBy cs rounds stop = some (tokensFrom stop (cs.drop stop)) := ih (by omega)
      rw [lexeme?_eq stands blank solid, stands, tokensFrom_blanks blank]
      have onward := Nat.le_add_right place blanks.length
      generalize place + blanks.length = start at behind onward
      have next := drop_succ_of_cons behind
      by_cases opening : c = '('
      · simp only [Lexeme.standing, if_pos opening, later (Nat.lt_succ_of_le onward), next]
        rw [opening, tokensFrom_opening]
        rfl
      by_cases closing : c = ')'
      · simp only [Lexeme.standing, if_neg opening, if_pos closing,
          later (Nat.lt_succ_of_le onward), next]
        rw [closing, tokensFrom_closing]
        rfl
      by_cases word : isWordChar c = true
      · have split := behind.trans (cons_eq_word_append c rest)
        have shown : (cs.drop start).take (c :: rest.takeWhile isWordChar).length =
            c :: rest.takeWhile isWordChar := by rw [split, List.take_left]
        have after : cs.drop (start + (c :: rest.takeWhile isWordChar).length) =
            rest.dropWhile isWordChar := by rw [← List.drop_drop, split, List.drop_left]
        have beyond : place < start + (c :: rest.takeWhile isWordChar).length := by
          rw [List.length_cons]
          omega
        simp only [Lexeme.standing, if_neg opening, if_neg closing, if_pos word,
          Nat.add_sub_cancel_left, shown, later beyond, after]
        cases kind : wordKind? (c :: rest.takeWhile isWordChar) with
        | some kind =>
          rw [tokensFrom_known start word kind]
          rfl
        | none => rw [tokensFrom_unknown start word kind]
      · simp only [Lexeme.standing, if_neg opening, if_neg closing, if_neg word, behind,
          tokensFrom_stray start rest (Bool.eq_false_iff.1 solid) opening closing word]
        simp

/-- White space at the end of a text adds no token. -/
theorem tokensFrom_append_blanks (position : Nat) (cs : List Char)
    (blank : ∀ b ∈ blanks, Text.isBlank b = true) :
    tokensFrom position (cs ++ blanks) = tokensFrom position cs := by
  have apart : blanks.takeWhile isWordChar = [] ∧ blanks.dropWhile isWordChar = blanks := by
    cases blanks with
    | nil => exact ⟨rfl, rfl⟩
    | cons b blanks => simp [not_isWordChar_of_isBlank (blank b List.mem_cons_self)]
  have taken (rest : List Char) :
      (rest ++ blanks).takeWhile isWordChar = rest.takeWhile isWordChar := by
    rw [List.takeWhile_append, apart.1, List.append_nil]
    split
    case isTrue all => exact ((List.takeWhile_prefix _).eq_of_length all).symm
    case isFalse => rfl
  have dropped (rest : List Char) :
      (rest ++ blanks).dropWhile isWordChar = rest.dropWhile isWordChar ++ blanks := by
    rw [List.dropWhile_append, apart.2]
    split
    case isTrue none => rw [List.isEmpty_iff.1 none, List.nil_append]
    case isFalse => rfl
  induction position, cs using tokensFrom.induct with
  | case1 position =>
    rw [List.nil_append, ← List.append_nil blanks, tokensFrom_blanks blank, tokensFrom, tokensFrom]
  | case2 position c rest isBlank ih =>
    rw [List.cons_append, tokensFrom, if_pos isBlank, ih, tokensFrom, if_pos isBlank]
  | case3 position rest solid ih =>
    rw [List.cons_append, tokensFrom_opening, ih, tokensFrom_opening]
  | case4 position rest solid notOpening ih =>
    rw [List.cons_append, tokensFrom_closing, ih, tokensFrom_closing]
  | case5 position c rest solid notOpening notClosing isWord word kind known ih =>
    rw [List.cons_append, tokensFrom_known position isWord (by rwa [taken]), taken, dropped, ih,
      tokensFrom_known position isWord known]
  | case6 position c rest solid notOpening notClosing isWord word unknown =>
    rw [List.cons_append, tokensFrom_unknown position isWord (by rwa [taken]), taken,
      tokensFrom_unknown position isWord unknown]
  | case7 position c rest solid notOpening notClosing other =>
    rw [List.cons_append, tokensFrom_stray position _ solid notOpening notClosing other,
      tokensFrom_stray position _ solid notOpening notClosing other]

/-- **The pattern finds the tokens** of every text, and a match fails for none of them. -/
theorem tokenizeBy_eq (s : String) : tokenizeBy s = some (tokenize s) := by
  have ends : ∀ c ∈ (Text.trimEndBy Text.isBlank s.toList).getLast?, Text.isBlank c = false := by
    rw [Text.trimEndBy, List.getLast?_reverse]
    exact head_dropWhile _
  have split : s.toList = Text.trimEndBy Text.isBlank s.toList ++
      (s.toList.reverse.takeWhile Text.isBlank).reverse := by
    rw [Text.trimEndBy, ← List.reverse_append, List.takeWhile_append_dropWhile,
      List.reverse_reverse]
  have blank : ∀ b ∈ (s.toList.reverse.takeWhile Text.isBlank).reverse, Text.isBlank b = true := by
    intro b inside
    exact List.all_eq_true.1 List.all_takeWhile b (List.mem_reverse.1 inside)
  rw [tokenizeBy, tokensBy_eq ends (by omega), tokenize, List.drop_zero]
  conv => rhs; rw [split, tokensFrom_append_blanks 0 _ blank]

end Expression
end Eligibility
