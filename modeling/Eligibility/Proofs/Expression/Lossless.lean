/-
# Nothing is lost

The tokens of a text account for all of it (`Lossless`): each is what the text has at the token's
span, the spans follow one another, and only white space stands outside of them.  A word is not cut
short, so between two words there is white space or a parenthesis (`Separated`).

A text has no tokens just when something in it cannot be read (`Unreadable`): a run of letters and
low lines that is neither a keyword nor a single small letter, or another character that is neither
white space nor a parenthesis.
-/

import Eligibility.Proofs.Expression.Matching

namespace Eligibility
namespace Expression

/-! ### Spans -/

/-- The place behind a token. -/
def Token.stop (token : Token) : Nat := token.position + token.text.length

/-- The text has a token at the token's span.  A word consists of word characters and is not cut
short; any other token is a parenthesis. -/
structure Token.Stands (token : Token) (cs : List Char) : Prop where
  within : token.stop ≤ cs.length
  shown : (cs.drop token.position).take token.text.length = token.text.toList
  nonempty : token.text.toList ≠ []
  word : token.kind.isWord = true →
    (∀ c ∈ token.text.toList, isWordChar c = true) ∧ ∀ c ∈ cs[token.stop]?, isWordChar c = false
  parenthesis : token.kind.isWord = false → token.text = "(" ∨ token.text = ")"

/-- Tokens account for all of a text from a place on. -/
structure Lossless (cs : List Char) (start : Nat) (tokens : List Token) : Prop where
  /-- The text has the tokens at their spans. -/
  stand : ∀ token ∈ tokens, start ≤ token.position ∧ token.Stands cs
  /-- The spans follow one another. -/
  increasing : tokens.Pairwise fun a b => a.stop ≤ b.position
  /-- Only white space stands outside of them. -/
  outside : ∀ place, start ≤ place →
    (∀ token ∈ tokens, ¬(token.position ≤ place ∧ place < token.stop)) →
    ∀ c ∈ cs[place]?, Text.isBlank c = true

variable {cs rest : List Char} {start : Nat} {tokens : List Token} {token : Token}

/-- Nothing is left past the end. -/
theorem Lossless.done (past : cs.length ≤ start) : Lossless cs start [] where
  stand := by simp
  increasing := .nil
  outside := by
    intro place onward _ c here
    rw [List.getElem?_eq_none (by omega)] at here
    cases here

/-- White space may stand before the first token. -/
theorem Lossless.skip (blank : ∀ c ∈ cs[start]?, Text.isBlank c = true)
    (later : Lossless cs (start + 1) tokens) : Lossless cs start tokens where
  stand := fun token member => ⟨by have := (later.stand token member).1; omega,
    (later.stand token member).2⟩
  increasing := later.increasing
  outside := by
    intro place onward uncovered
    rcases Nat.eq_or_lt_of_le onward with rfl | beyond
    · exact blank
    · exact later.outside place beyond uncovered

/-- A token is followed by those that account for what stands behind it. -/
theorem Lossless.cons (stands : token.Stands cs) (later : Lossless cs token.stop tokens) :
    Lossless cs token.position (token :: tokens) where
  stand := by
    intro other member
    rcases List.mem_cons.1 member with rfl | member
    · exact ⟨Nat.le_refl _, stands⟩
    · obtain ⟨onward, stands⟩ := later.stand other member
      exact ⟨by rw [Token.stop] at onward; omega, stands⟩
  increasing := .cons (fun other member => (later.stand other member).1) later.increasing
  outside := by
    intro place onward uncovered
    have beyond := uncovered token List.mem_cons_self
    exact later.outside place (by omega) fun other member =>
      uncovered other (List.mem_cons_of_mem _ member)

/-- A token stands where its text does. -/
theorem Lossless.ofText {kind : Kind} {text : String} {shown : List Char}
    (spelled : text.toList = shown) (here : cs.drop start = shown ++ rest) (nonempty : shown ≠ [])
    (word : kind.isWord = true →
      (∀ c ∈ shown, isWordChar c = true) ∧ ∀ c ∈ rest.head?, isWordChar c = false)
    (parenthesis : kind.isWord = false → text = "(" ∨ text = ")")
    (later : cs.drop (start + shown.length) = rest → Lossless cs (start + shown.length) tokens) :
    Lossless cs start (⟨kind, text, start⟩ :: tokens) := by
  subst spelled
  have length := String.length_toList (s := text)
  have behind : cs.drop (start + text.toList.length) = rest := by
    rw [← List.drop_drop, here, List.drop_left]
  have positive := List.length_pos_of_ne_nil nonempty
  have counted := congrArg List.length here
  rw [List.length_drop, List.length_append] at counted
  have stop : Token.stop ⟨kind, text, start⟩ = start + text.toList.length := by
    rw [Token.stop, length]
  refine .cons ⟨?within, ?shown, nonempty, ?word, parenthesis⟩ (stop ▸ later behind)
  case within =>
    rw [stop]
    omega
  case shown =>
    change (cs.drop start).take text.length = _
    rw [here, ← length, List.take_left]
  case word => rwa [stop, ← List.head?_drop, behind]

/-! ### Kinds of words -/

/-- A word that is a keyword, in any casing. -/
def IsKeyword (word : List Char) : Prop :=
  word.map Char.toLower ∈ [['a', 'n', 'd'], ['o', 'r'], ['n', 'o', 't']]

/-- A word that is a single small letter. -/
def IsSmallLetter (word : List Char) : Prop := ∃ c, word = [c] ∧ c.isLower = true

/-- A word has no kind just when it is neither; the kind that it has is that of a word. -/
theorem wordKind?_spec (word : List Char) :
    (wordKind? word = none ↔ ¬IsKeyword word ∧ ¬IsSmallLetter word) ∧
      ∀ kind ∈ wordKind? word, kind.isWord = true := by
  unfold wordKind?
  split
  case h_1 same => simp [IsKeyword, same, Kind.isWord]
  case h_2 same => simp [IsKeyword, same, Kind.isWord]
  case h_3 same => simp [IsKeyword, same, Kind.isWord]
  case h_4 notAnd notOr notNot =>
    have other : ¬IsKeyword word := by
      simp only [IsKeyword, List.mem_cons, List.not_mem_nil, or_false]
      exact fun keyword => keyword.elim notAnd fun keyword => keyword.elim notOr notNot
    split
    case h_1 c =>
      have letter : IsSmallLetter [c] ↔ c.isLower = true := by simp [IsSmallLetter]
      split
      case isTrue small => simp [letter, small, Kind.isWord]
      case isFalse big => simp [letter, big, other]
    case h_2 several =>
      have notLetter : ¬IsSmallLetter word := by
        rintro ⟨c, same, _⟩
        exact several c same
      simp [other, notLetter]

/-! ### The tokens that are found -/

/-- What is found behind a token is found with it. -/
theorem exists_of_map {token : Token} {others : Except Fault (List Token)}
    (found : others.map (token :: ·) = .ok tokens) :
    ∃ later, others = .ok later ∧ tokens = token :: later := by
  cases others with
  | error fault => cases found
  | ok later =>
    obtain rfl := Except.ok.inj found
    exact ⟨later, rfl, rfl⟩

/-- **Nothing is lost** of what is left at a place. -/
theorem lossless_of_tokensFrom (start : Nat) (rest : List Char) : cs.drop start = rest →
    ∀ tokens, tokensFrom start rest = .ok tokens → Lossless cs start tokens := by
  induction start, rest using tokensFrom.induct with
  | case1 position =>
    intro here tokens found
    rw [tokensFrom] at found
    obtain rfl := Except.ok.inj found
    exact .done (List.drop_eq_nil_iff.1 here)
  | case2 position c rest isBlank ih =>
    intro here tokens found
    rw [tokensFrom, if_pos isBlank] at found
    refine .skip (fun d first => ?_) (ih (Pattern.drop_succ_of_cons here) tokens found)
    rw [← List.head?_drop, here] at first
    obtain rfl := Option.some.inj first
    exact isBlank
  | case3 position rest solid ih =>
    intro here tokens found
    rw [tokensFrom_opening] at found
    obtain ⟨later, came, rfl⟩ := exists_of_map found
    exact .ofText (by simp) here (List.cons_ne_nil '(' []) (by simp [Kind.isWord])
      (fun _ => .inl rfl) fun behind => ih behind later came
  | case4 position rest solid notOpening ih =>
    intro here tokens found
    rw [tokensFrom_closing] at found
    obtain ⟨later, came, rfl⟩ := exists_of_map found
    exact .ofText (by simp) here (List.cons_ne_nil ')' []) (by simp [Kind.isWord])
      (fun _ => .inr rfl) fun behind => ih behind later came
  | case5 position c rest solid notOpening notClosing isWord word kind known ih =>
    intro here tokens found
    rw [tokensFrom_known position isWord known] at found
    obtain ⟨later, came, rfl⟩ := exists_of_map found
    have isWordKind := (wordKind?_spec (c :: rest.takeWhile isWordChar)).2 kind known
    refine .ofText String.toList_ofList (here.trans (cons_eq_word_append c rest))
      (List.cons_ne_nil c _) (fun _ => ⟨isWordChar_of_mem_word isWord, head_dropWhile rest⟩)
      (fun other => ?_) fun behind => ih behind later came
    rw [isWordKind] at other
    cases other
  | case6 position c rest solid notOpening notClosing isWord word unknown =>
    intro here tokens found
    rw [tokensFrom_unknown position isWord unknown] at found
    cases found
  | case7 position c rest solid notOpening notClosing other =>
    intro here tokens found
    rw [tokensFrom_stray position rest solid notOpening notClosing other] at found
    cases found

/-! ### Words are apart -/

/-- Between two words there is white space or a parenthesis. -/
def Separated (cs : List Char) (tokens : List Token) : Prop :=
  ∀ before a between b after, tokens = before ++ a :: (between ++ b :: after) →
    a.kind.isWord = true → b.kind.isWord = true →
      ∃ place, a.stop ≤ place ∧ place < b.position ∧
        ((∃ c ∈ cs[place]?, Text.isBlank c = true) ∨
          ∃ token ∈ between, token.kind.isWord = false ∧ token.position = place)

theorem Token.Stands.position_lt (stands : token.Stands cs) : token.position < token.stop := by
  have positive := List.length_pos_of_ne_nil stands.nonempty
  rw [String.length_toList] at positive
  rw [Token.stop]
  omega

/-- A word begins with a word character. -/
theorem Token.Stands.begins (stands : token.Stands cs) (word : token.kind.isWord = true) :
    ∀ c ∈ cs[token.position]?, isWordChar c = true := by
  intro c here
  refine (stands.word word).1 c (List.mem_of_mem_head? ?_)
  have positive : token.text.length ≠ 0 := by
    have := stands.position_lt
    rw [Token.stop] at this
    omega
  rwa [← stands.shown, List.head?_take, if_neg positive, List.head?_drop]

/-- **Words are apart** where nothing is lost: a word is not cut short, so what stands behind it is
no word. -/
theorem Lossless.separated (lossless : Lossless cs start tokens) : Separated cs tokens := by
  rintro before a between b after rfl aWord bWord
  obtain ⟨onward, aStands⟩ := lossless.stand a (by simp)
  have bStands := (lossless.stand b (by simp)).2
  have order := lossless.increasing
  simp only [List.pairwise_append, List.pairwise_cons, List.mem_append, List.mem_cons] at order
  have aEnds := (aStands.word aWord).2
  have aLength := aStands.position_lt
  have bLength := bStands.position_lt
  -- A token that begins where the first word ends is no word.
  have other {t : Token} (stands : t.Stands cs) (same : t.position = a.stop) :
      t.kind.isWord = false := by
    refine Bool.eq_false_iff.2 fun word => ?_
    have inside : a.stop < cs.length := same ▸ Nat.lt_of_lt_of_le stands.position_lt stands.within
    have here := List.getElem?_eq_getElem inside
    exact Bool.eq_false_iff.1 (aEnds _ here) (stands.begins word _ (by rwa [same]))
  have apart : a.stop < b.position := by
    refine Nat.lt_of_le_of_ne (order.2.1.1 b (by simp)) fun same => ?_
    exact Bool.eq_false_iff.1 (other bStands same.symm) bWord
  refine ⟨a.stop, Nat.le_refl _, apart, ?_⟩
  by_cases covered : ∃ t ∈ between, t.position ≤ a.stop ∧ a.stop < t.stop
  · obtain ⟨t, member, begins, _⟩ := covered
    have same := Nat.le_antisymm begins (order.2.1.1 t (by simp [member]))
    exact .inr ⟨t, member, other (lossless.stand t (by simp [member])).2 same, same⟩
  · have within := bStands.within
    have inside : a.stop < cs.length := by omega
    have here := List.getElem?_eq_getElem inside
    refine .inl ⟨_, here, lossless.outside a.stop (by omega) ?_ _ here⟩
    rintro t member ⟨begins, ends⟩
    simp only [List.mem_append, List.mem_cons] at member
    rcases member with member | rfl | member | rfl | member
    · have := order.2.2 t member a (.inl rfl)
      omega
    · omega
    · exact covered ⟨t, member, begins, ends⟩
    · omega
    · have := order.2.1.2.2.1.1 t member
      omega

/-! ### What cannot be read -/

/-- A longest run of word characters, between the characters before it and those behind. -/
structure Run (cs before word after : List Char) : Prop where
  parts : cs = before ++ (word ++ after)
  nonempty : word ≠ []
  within : ∀ c ∈ word, isWordChar c = true
  starts : ∀ c ∈ before.getLast?, isWordChar c = false
  ends : ∀ c ∈ after.head?, isWordChar c = false

/-- Characters in which something cannot be read: a longest run of word characters that is neither
a keyword nor a single small letter, or another character that is neither white space nor a
parenthesis. -/
def Unreadable (cs : List Char) : Prop :=
  (∃ before word after, Run cs before word after ∧ ¬IsKeyword word ∧ ¬IsSmallLetter word) ∨
    ∃ c ∈ cs, isWordChar c = false ∧ Text.isBlank c = false ∧ c ≠ '(' ∧ c ≠ ')'

variable {c : Char} {before word after run : List Char}

/-- A run is not changed by what stands before it, when a character that belongs to none stands
between. -/
theorem run_append_iff_of_apart {piece more : List Char}
    (apart : (∀ c ∈ piece.getLast?, isWordChar c = false) ∨
      ∀ c ∈ rest.head?, isWordChar c = false) :
    Run (piece ++ rest) (piece ++ more) word after ↔ Run rest more word after := by
  refine ⟨fun ⟨parts, nonempty, within, starts, ends⟩ => ⟨?parts, nonempty, within, ?starts, ends⟩,
    fun ⟨parts, nonempty, within, starts, ends⟩ => ⟨?back, nonempty, within, ?fresh, ends⟩⟩
  case parts => exact List.append_cancel_left (by rwa [List.append_assoc] at parts)
  case starts =>
    intro c last
    refine starts c ?_
    rw [List.getLast?_append, Option.mem_def.1 last]
    rfl
  case back => rw [parts, List.append_assoc]
  case fresh =>
    cases more with
    | cons d more =>
      rw [List.getLast?_append_cons]
      exact starts
    | nil =>
      rw [List.append_nil]
      refine apart.elim id fun apart => ?_
      obtain ⟨d, word, rfl⟩ := List.exists_cons_of_ne_nil nonempty
      have none := apart d (by rw [parts]; rfl)
      rw [within d List.mem_cons_self] at none
      cases none

/-- The runs behind a character that belongs to none. -/
theorem run_cons_iff (apart : isWordChar c = false) :
    Run (c :: rest) before word after ↔ ∃ more, before = c :: more ∧ Run rest more word after := by
  have behind (more : List Char) :
      Run ([c] ++ rest) ([c] ++ more) word after ↔ Run rest more word after :=
    run_append_iff_of_apart (.inl (by simpa using apart))
  constructor
  · intro found
    cases before with
    | cons d more =>
      obtain rfl : c = d := (List.cons.inj found.parts).1
      exact ⟨more, rfl, (behind more).1 found⟩
    | nil =>
      obtain ⟨d, word, rfl⟩ := List.exists_cons_of_ne_nil found.nonempty
      obtain rfl : c = d := (List.cons.inj found.parts).1
      rw [found.within c List.mem_cons_self] at apart
      cases apart
  · rintro ⟨more, rfl, found⟩
    exact (behind more).2 found

theorem takeWhile_word (within : ∀ c ∈ word, isWordChar c = true)
    (ends : ∀ c ∈ after.head?, isWordChar c = false) :
    (word ++ after).takeWhile isWordChar = word := by
  rw [List.takeWhile_append_of_pos within]
  cases after with
  | nil => exact List.append_nil word
  | cons d after => rw [List.takeWhile_cons_of_neg (by simp [ends d rfl]), List.append_nil]

/-- The runs of characters that begin with one. -/
theorem run_append_iff (nonempty : run ≠ []) (within : ∀ c ∈ run, isWordChar c = true)
    (ends : ∀ c ∈ rest.head?, isWordChar c = false) :
    Run (run ++ rest) before word after ↔ (before = [] ∧ word = run ∧ after = rest) ∨
      ∃ more, before = run ++ more ∧ Run rest more word after := by
  constructor
  · intro found
    rcases List.append_eq_append_iff.1 found.parts with ⟨more, rfl, _⟩ | ⟨more, parts, same⟩
    · exact .inr ⟨more, rfl, (run_append_iff_of_apart (.inr ends)).1 found⟩
    · have first : before = [] := by
        refine List.getLast?_eq_none_iff.1 (Option.eq_none_iff_forall_not_mem.2 fun c last => ?_)
        have inside := within c (parts ▸ List.mem_append_left more (List.mem_of_getLast? last))
        rw [found.starts c last] at inside
        cases inside
      have parts := found.parts
      rw [first, List.nil_append] at parts
      obtain rfl : word = run := by
        rw [← takeWhile_word found.within found.ends, ← parts, takeWhile_word within ends]
      exact .inl ⟨first, rfl, (List.append_cancel_left parts).symm⟩
  · rintro (⟨rfl, rfl, rfl⟩ | ⟨more, rfl, found⟩)
    · exact ⟨rfl, nonempty, within, nofun, ends⟩
    · exact (run_append_iff_of_apart (.inr ends)).2 found

/-- There is nothing in no characters that could not be read. -/
theorem not_unreadable_nil : ¬Unreadable [] := by
  rintro (⟨before, word, after, found, _⟩ | ⟨c, member, _⟩)
  · have parts := found.parts
    simp [found.nonempty] at parts
  · cases member

/-- A character that belongs to no run cannot be read, or something behind it. -/
theorem unreadable_cons_iff (apart : isWordChar c = false) :
    Unreadable (c :: rest) ↔ (Text.isBlank c = false ∧ c ≠ '(' ∧ c ≠ ')') ∨ Unreadable rest := by
  simp only [Unreadable, run_cons_iff apart]
  constructor
  · rintro (⟨_, word, after, ⟨more, rfl, found⟩, unknown⟩ | ⟨d, member, other, stray⟩)
    · exact .inr (.inl ⟨more, word, after, found, unknown⟩)
    · rcases List.mem_cons.1 member with rfl | member
      · exact .inl stray
      · exact .inr (.inr ⟨d, member, other, stray⟩)
  · rintro (stray | ⟨more, word, after, found, unknown⟩ | ⟨d, member, stray⟩)
    · exact .inr ⟨c, List.mem_cons_self, apart, stray⟩
    · exact .inl ⟨c :: more, word, after, ⟨more, rfl, found⟩, unknown⟩
    · exact .inr ⟨d, List.mem_cons_of_mem c member, stray⟩

/-- A run cannot be read, or something behind it. -/
theorem unreadable_append_iff (nonempty : run ≠ []) (within : ∀ c ∈ run, isWordChar c = true)
    (ends : ∀ c ∈ rest.head?, isWordChar c = false) :
    Unreadable (run ++ rest) ↔ (¬IsKeyword run ∧ ¬IsSmallLetter run) ∨ Unreadable rest := by
  simp only [Unreadable, run_append_iff nonempty within ends]
  constructor
  · rintro (⟨_, _, _, ⟨rfl, rfl, rfl⟩ | ⟨more, rfl, found⟩, unknown⟩ | ⟨d, member, other, stray⟩)
    · exact .inl unknown
    · exact .inr (.inl ⟨more, _, _, found, unknown⟩)
    · rcases List.mem_append.1 member with member | member
      · rw [within d member] at other
        cases other
      · exact .inr (.inr ⟨d, member, other, stray⟩)
  · rintro (unknown | ⟨more, word, after, found, unknown⟩ | ⟨d, member, stray⟩)
    · exact .inl ⟨[], run, rest, .inl ⟨rfl, rfl, rfl⟩, unknown⟩
    · exact .inl ⟨run ++ more, word, after, .inr ⟨more, rfl, found⟩, unknown⟩
    · exact .inr ⟨d, List.mem_append_right run member, stray⟩

/-- Characters that begin with a word. -/
theorem unreadable_word_iff (rest : List Char) (isWord : isWordChar c = true) :
    Unreadable (c :: rest) ↔ wordKind? (c :: rest.takeWhile isWordChar) = none ∨
      Unreadable (rest.dropWhile isWordChar) := by
  conv => lhs; rw [cons_eq_word_append c rest]
  rw [unreadable_append_iff (List.cons_ne_nil c _) (isWordChar_of_mem_word isWord)
    (head_dropWhile rest), (wordKind?_spec _).1]

theorem isError_map (token : Token) (others : Except Fault (List Token)) :
    (∃ fault, others.map (token :: ·) = .error fault) ↔ ∃ fault, others = .error fault := by
  cases others with
  | error fault => rfl
  | ok later => exact ⟨nofun, nofun⟩

/-- **There are no tokens** just when something cannot be read. -/
theorem error_iff_unreadable (start : Nat) (cs : List Char) :
    (∃ fault, tokensFrom start cs = .error fault) ↔ Unreadable cs := by
  induction start, cs using tokensFrom.induct with
  | case1 position =>
    rw [tokensFrom]
    simp [not_unreadable_nil]
  | case2 position c rest isBlank ih =>
    rw [tokensFrom, if_pos isBlank, ih, unreadable_cons_iff (not_isWordChar_of_isBlank isBlank)]
    simp [isBlank]
  | case3 position rest solid ih =>
    rw [tokensFrom_opening, isError_map, ih, unreadable_cons_iff (by decide)]
    simp
  | case4 position rest solid notOpening ih =>
    rw [tokensFrom_closing, isError_map, ih, unreadable_cons_iff (by decide)]
    simp
  | case5 position c rest solid notOpening notClosing isWord word kind known ih =>
    rw [tokensFrom_known position isWord known, isError_map, ih, unreadable_word_iff rest isWord,
      known]
    simp
  | case6 position c rest solid notOpening notClosing isWord word unknown =>
    rw [tokensFrom_unknown position isWord unknown, unreadable_word_iff rest isWord, unknown]
    simp
  | case7 position c rest solid notOpening notClosing other =>
    rw [tokensFrom_stray position rest solid notOpening notClosing other,
      unreadable_cons_iff (Bool.eq_false_iff.2 other)]
    simp [solid, notOpening, notClosing]

/-- **Nothing is lost.**  The tokens of a text are those that the pattern finds in it, where a match
never fails before the end.  There are none just when something in the text cannot be read; and
those that there are account for all of the text, with the words apart. -/
theorem tokenize_lossless (s : String) :
    tokenizeBy s = some (tokenize s) ∧
    ((∃ fault, tokenize s = .error fault) ↔ Unreadable s.toList) ∧
    ∀ tokens, tokenize s = .ok tokens → Lossless s.toList 0 tokens ∧ Separated s.toList tokens := by
  refine ⟨tokenizeBy_eq s, error_iff_unreadable 0 s.toList, fun tokens found => ?_⟩
  have lossless := lossless_of_tokensFrom 0 s.toList rfl tokens found
  exact ⟨lossless, lossless.separated⟩

end Expression
end Eligibility
