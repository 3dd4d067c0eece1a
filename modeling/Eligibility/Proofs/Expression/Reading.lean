/-
# What the readers of expressions accept

Tokens are read as an expression exactly when they have a derivation, and the expression is the
tree of that derivation (`ofTokens_iff_derivation`).

*Complete*: a derivation in front of tokens that do not go on with its chain is read to its tree,
with the rest left over, as long as the depth is four times the number of tokens; so the depth
that reading starts with is never used up.  The proofs follow the derivation.

*Sound*: what a reader returns is the tree of a derivation of the tokens that it took.  The proofs
follow the depth.
-/

import Eligibility.Proofs.Expression.Grammar
import Eligibility.Proofs.Trial
import Eligibility.Expression.Reader

namespace Eligibility
namespace Expression

/-! ### Tokens in front of others -/

/-- The kinds of tokens, in order. -/
abbrev kindsOf (tokens : List Token) : List Kind := tokens.map (·.kind)

/-- The kinds are those of the tokens in front of the rest. -/
def Covers (kinds : List Kind) (tokens rest : List Token) : Prop :=
  ∃ used, kindsOf used = kinds ∧ tokens = used ++ rest

namespace Covers

variable {kinds later : List Kind} {kind : Kind} {tokens middle rest : List Token} {token : Token}

theorem nil : Covers [] tokens tokens := ⟨[], rfl, rfl⟩

theorem whole (tokens : List Token) : Covers (kindsOf tokens) tokens [] :=
  ⟨tokens, rfl, by simp⟩

theorem append (first : Covers kinds tokens middle) (second : Covers later middle rest) :
    Covers (kinds ++ later) tokens rest := by
  obtain ⟨used, rfl, rfl⟩ := first
  obtain ⟨more, rfl, rfl⟩ := second
  exact ⟨used ++ more, by simp, by simp⟩

theorem cons (same : token.kind = kind) (more : Covers kinds tokens rest) :
    Covers (kind :: kinds) (token :: tokens) rest := by
  obtain ⟨used, rfl, rfl⟩ := more
  exact ⟨token :: used, by simp [same], rfl⟩

theorem of_append (h : Covers (kinds ++ later) tokens rest) :
    ∃ middle, Covers kinds tokens middle ∧ Covers later middle rest := by
  obtain ⟨used, same, rfl⟩ := h
  obtain ⟨first, second, rfl, rfl, rfl⟩ := List.map_eq_append_iff.1 same
  exact ⟨second ++ rest, ⟨first, rfl, by simp⟩, ⟨second, rfl, rfl⟩⟩

theorem of_cons (h : Covers (kind :: kinds) tokens rest) :
    ∃ text position others, tokens = ⟨kind, text, position⟩ :: others ∧
      Covers kinds others rest := by
  obtain ⟨used, same, rfl⟩ := h
  obtain ⟨token, others, rfl, rfl, rfl⟩ := List.map_eq_cons_iff.1 same
  exact ⟨token.text, token.position, others ++ rest, rfl, others, rfl, rfl⟩

theorem of_nil (h : Covers [] tokens rest) : tokens = rest := by
  obtain ⟨used, none, rfl⟩ := h
  rw [List.map_eq_nil_iff.1 none, List.nil_append]

theorem kindsOf_eq (h : Covers kinds tokens rest) : kindsOf tokens = kinds ++ kindsOf rest := by
  obtain ⟨used, rfl, rfl⟩ := h
  simp [kindsOf]

end Covers

/-! ### Where a chain ends -/

theorem moreDisjuncts_stop (depth : Nat) (left : Expression) {rest : List Token}
    (stop : NotFirst joining (kindsOf rest)) :
    moreDisjuncts (depth + 1) left rest = .ok (left, rest) := by
  cases rest with
  | nil => rfl
  | cons token rest =>
    obtain ⟨kind, text, position⟩ := token
    cases kind with
    | or => exact absurd (stop .or rfl) (by simp)
    | letter | and | not | opening | closing => rfl

theorem moreConjuncts_stop (depth : Nat) (left : Expression) {rest : List Token}
    (stop : NotFirst conjoining (kindsOf rest)) :
    moreConjuncts (depth + 1) left rest = .ok (left, rest) := by
  cases rest with
  | nil => rfl
  | cons token rest =>
    obtain ⟨kind, text, position⟩ := token
    cases kind with
    | and => exact absurd (stop .and rfl) (by simp)
    | letter | or | not | opening | closing => rfl

/-- An atom begins with no *not*. -/
theorem readNegation_atom (depth : Nat) {a : Atom} {tokens rest : List Token}
    (covers : Covers a.kinds tokens rest) :
    readNegation (depth + 1) tokens = readAtom depth tokens := by
  cases a with
  | letter c =>
    obtain ⟨text, position, others, rfl, -⟩ := covers.of_cons
    rfl
  | enclosed inner =>
    obtain ⟨text, position, others, rfl, -⟩ := covers.of_cons
    rfl

/-! ### Completeness -/

mutual

theorem readDisjunction_complete :
    ∀ (d : Disjunction) {depth : Nat} {tokens rest : List Token}, Covers d.kinds tokens rest →
      NotFirst joining (kindsOf rest) → 4 * d.kinds.length ≤ depth →
      readDisjunction depth tokens = .ok (d.tree, rest)
  | .mk first more, depth, tokens, rest, covers, stop, deep => by
    obtain ⟨middle, front, back⟩ := covers.of_append
    have pos := first.length_kinds_pos
    simp only [Disjunction.kinds, List.length_append] at deep
    obtain ⟨depth, rfl⟩ : ∃ less, depth = less + 1 := ⟨depth - 1, by omega⟩
    have ends : NotFirst conjoining (kindsOf middle) := by
      rw [back.kindsOf_eq]
      exact more.notFirst stop
    have one : readConjunction depth tokens = .ok (first.tree, middle) :=
      readConjunction_complete first front ends (by omega)
    have others : moreDisjuncts depth first.tree middle = .ok (more.treeFrom first.tree, rest) :=
      moreDisjuncts_complete more first.tree back stop (by omega)
    rw [readDisjunction, one]
    exact others

theorem moreDisjuncts_complete :
    ∀ (more : Disjuncts) (left : Expression) {depth : Nat} {tokens rest : List Token},
      Covers more.kinds tokens rest → NotFirst joining (kindsOf rest) →
      4 * more.kinds.length + 1 ≤ depth →
      moreDisjuncts depth left tokens = .ok (more.treeFrom left, rest)
  | .none, left, depth, tokens, rest, covers, stop, deep => by
    obtain rfl := covers.of_nil
    obtain ⟨depth, rfl⟩ : ∃ less, depth = less + 1 := ⟨depth - 1, by omega⟩
    exact moreDisjuncts_stop depth left stop
  | .more next others, left, depth, tokens, rest, covers, stop, deep => by
    obtain ⟨text, position, behind, rfl, inside⟩ := covers.of_cons
    obtain ⟨middle, front, back⟩ := inside.of_append
    have pos := next.length_kinds_pos
    simp only [Disjuncts.kinds, List.length_cons, List.length_append] at deep
    obtain ⟨depth, rfl⟩ : ∃ less, depth = less + 1 := ⟨depth - 1, by omega⟩
    have ends : NotFirst conjoining (kindsOf middle) := by
      rw [back.kindsOf_eq]
      exact others.notFirst stop
    have one : readConjunction depth behind = .ok (next.tree, middle) :=
      readConjunction_complete next front ends (by omega)
    have later : moreDisjuncts depth (.or left next.tree) middle =
        .ok (others.treeFrom (.or left next.tree), rest) :=
      moreDisjuncts_complete others (.or left next.tree) back stop (by omega)
    rw [moreDisjuncts, one]
    exact later

theorem readConjunction_complete :
    ∀ (d : Conjunction) {depth : Nat} {tokens rest : List Token}, Covers d.kinds tokens rest →
      NotFirst conjoining (kindsOf rest) → 4 * d.kinds.length ≤ depth + 1 →
      readConjunction depth tokens = .ok (d.tree, rest)
  | .mk first more, depth, tokens, rest, covers, stop, deep => by
    obtain ⟨middle, front, back⟩ := covers.of_append
    have pos := first.length_kinds_pos
    simp only [Conjunction.kinds, List.length_append] at deep
    obtain ⟨depth, rfl⟩ : ∃ less, depth = less + 1 := ⟨depth - 1, by omega⟩
    have one : readNegation depth tokens = .ok (first.tree, middle) :=
      readNegation_complete first front (by omega)
    have others : moreConjuncts depth first.tree middle = .ok (more.treeFrom first.tree, rest) :=
      moreConjuncts_complete more first.tree back stop (by omega)
    rw [readConjunction, one]
    exact others

theorem moreConjuncts_complete :
    ∀ (more : Conjuncts) (left : Expression) {depth : Nat} {tokens rest : List Token},
      Covers more.kinds tokens rest → NotFirst conjoining (kindsOf rest) →
      4 * more.kinds.length + 1 ≤ depth →
      moreConjuncts depth left tokens = .ok (more.treeFrom left, rest)
  | .none, left, depth, tokens, rest, covers, stop, deep => by
    obtain rfl := covers.of_nil
    obtain ⟨depth, rfl⟩ : ∃ less, depth = less + 1 := ⟨depth - 1, by omega⟩
    exact moreConjuncts_stop depth left stop
  | .more next others, left, depth, tokens, rest, covers, stop, deep => by
    obtain ⟨text, position, behind, rfl, inside⟩ := covers.of_cons
    obtain ⟨middle, front, back⟩ := inside.of_append
    have pos := next.length_kinds_pos
    simp only [Conjuncts.kinds, List.length_cons, List.length_append] at deep
    obtain ⟨depth, rfl⟩ : ∃ less, depth = less + 1 := ⟨depth - 1, by omega⟩
    have one : readNegation depth behind = .ok (next.tree, middle) :=
      readNegation_complete next front (by omega)
    have later : moreConjuncts depth (.and left next.tree) middle =
        .ok (others.treeFrom (.and left next.tree), rest) :=
      moreConjuncts_complete others (.and left next.tree) back stop (by omega)
    rw [moreConjuncts, one]
    exact later

theorem readNegation_complete :
    ∀ (n : Negation) {depth : Nat} {tokens rest : List Token}, Covers n.kinds tokens rest →
      4 * n.kinds.length ≤ depth + 2 → readNegation depth tokens = .ok (n.tree, rest)
  | .not operand, depth, tokens, rest, covers, deep => by
    obtain ⟨text, position, behind, rfl, denied⟩ := covers.of_cons
    have pos := operand.length_kinds_pos
    simp only [Negation.kinds, List.length_cons] at deep
    obtain ⟨depth, rfl⟩ : ∃ less, depth = less + 1 := ⟨depth - 1, by omega⟩
    have one : readNegation depth behind = .ok (operand.tree, rest) :=
      readNegation_complete operand denied (by omega)
    rw [readNegation, one]
    rfl
  | .atom a, depth, tokens, rest, covers, deep => by
    have pos := a.length_kinds_pos
    simp only [Negation.kinds] at covers deep
    obtain ⟨depth, rfl⟩ : ∃ less, depth = less + 1 := ⟨depth - 1, by omega⟩
    rw [readNegation_atom depth covers]
    exact readAtom_complete a covers (by omega)

theorem readAtom_complete :
    ∀ (a : Atom) {depth : Nat} {tokens rest : List Token}, Covers a.kinds tokens rest →
      4 * a.kinds.length ≤ depth + 3 → readAtom depth tokens = .ok (a.tree, rest)
  | .letter c, depth, tokens, rest, covers, deep => by
    obtain ⟨text, position, behind, rfl, last⟩ := covers.of_cons
    obtain rfl := last.of_nil
    simp only [Atom.kinds, List.length_singleton] at deep
    obtain ⟨depth, rfl⟩ : ∃ less, depth = less + 1 := ⟨depth - 1, by omega⟩
    rfl
  | .enclosed inner, depth, tokens, rest, covers, deep => by
    obtain ⟨text, position, behind, rfl, inside⟩ := covers.of_cons
    obtain ⟨middle, front, back⟩ := inside.of_append
    obtain ⟨text', position', others, rfl, last⟩ := back.of_cons
    obtain rfl := last.of_nil
    simp only [Atom.kinds, List.length_cons, List.length_append, List.length_nil] at deep
    obtain ⟨depth, rfl⟩ : ∃ less, depth = less + 1 := ⟨depth - 1, by omega⟩
    have ends : NotFirst joining (kindsOf (⟨.closing, text', position'⟩ :: others)) :=
      .cons (by simp)
    have one : readDisjunction depth behind =
        .ok (inner.tree, ⟨.closing, text', position'⟩ :: others) :=
      readDisjunction_complete inner front ends (by omega)
    rw [readAtom, one]
    rfl

end

/-! ### Soundness -/

mutual

theorem readDisjunction_sound :
    ∀ (depth : Nat) {tokens rest : List Token} {e : Expression},
      readDisjunction depth tokens = .ok (e, rest) →
      ∃ d : Disjunction, Covers d.kinds tokens rest ∧ d.tree = e
  | 0, _, _, _, came => by cases came
  | depth + 1, tokens, rest, e, came => by
    rw [readDisjunction] at came
    obtain ⟨⟨first, middle⟩, one, came⟩ := bind_eq_ok.1 came
    obtain ⟨c, front, rfl⟩ := readConjunction_sound depth one
    obtain ⟨more, back, rfl⟩ := moreDisjuncts_sound depth came
    exact ⟨.mk c more, front.append back, rfl⟩

theorem moreDisjuncts_sound :
    ∀ (depth : Nat) {left : Expression} {tokens rest : List Token} {e : Expression},
      moreDisjuncts depth left tokens = .ok (e, rest) →
      ∃ more : Disjuncts, Covers more.kinds tokens rest ∧ more.treeFrom left = e
  | 0, _, _, _, _, came => by cases came
  | depth + 1, left, tokens, rest, e, came => by
    unfold moreDisjuncts at came
    split at came
    · next text position behind =>
      obtain ⟨⟨right, middle⟩, one, came⟩ := bind_eq_ok.1 came
      obtain ⟨next, front, rfl⟩ := readConjunction_sound depth one
      obtain ⟨others, back, rfl⟩ := moreDisjuncts_sound depth came
      exact ⟨.more next others, .cons rfl (front.append back), rfl⟩
    · obtain ⟨rfl, rfl⟩ := Prod.mk.inj (Except.ok.inj came)
      exact ⟨.none, .nil, rfl⟩

theorem readConjunction_sound :
    ∀ (depth : Nat) {tokens rest : List Token} {e : Expression},
      readConjunction depth tokens = .ok (e, rest) →
      ∃ d : Conjunction, Covers d.kinds tokens rest ∧ d.tree = e
  | 0, _, _, _, came => by cases came
  | depth + 1, tokens, rest, e, came => by
    rw [readConjunction] at came
    obtain ⟨⟨first, middle⟩, one, came⟩ := bind_eq_ok.1 came
    obtain ⟨n, front, rfl⟩ := readNegation_sound depth one
    obtain ⟨more, back, rfl⟩ := moreConjuncts_sound depth came
    exact ⟨.mk n more, front.append back, rfl⟩

theorem moreConjuncts_sound :
    ∀ (depth : Nat) {left : Expression} {tokens rest : List Token} {e : Expression},
      moreConjuncts depth left tokens = .ok (e, rest) →
      ∃ more : Conjuncts, Covers more.kinds tokens rest ∧ more.treeFrom left = e
  | 0, _, _, _, _, came => by cases came
  | depth + 1, left, tokens, rest, e, came => by
    unfold moreConjuncts at came
    split at came
    · next text position behind =>
      obtain ⟨⟨right, middle⟩, one, came⟩ := bind_eq_ok.1 came
      obtain ⟨next, front, rfl⟩ := readNegation_sound depth one
      obtain ⟨others, back, rfl⟩ := moreConjuncts_sound depth came
      exact ⟨.more next others, .cons rfl (front.append back), rfl⟩
    · obtain ⟨rfl, rfl⟩ := Prod.mk.inj (Except.ok.inj came)
      exact ⟨.none, .nil, rfl⟩

theorem readNegation_sound :
    ∀ (depth : Nat) {tokens rest : List Token} {e : Expression},
      readNegation depth tokens = .ok (e, rest) →
      ∃ n : Negation, Covers n.kinds tokens rest ∧ n.tree = e
  | 0, _, _, _, came => by cases came
  | depth + 1, tokens, rest, e, came => by
    unfold readNegation at came
    split at came
    · next text position behind =>
      obtain ⟨⟨operand, middle⟩, one, came⟩ := bind_eq_ok.1 came
      obtain ⟨n, front, rfl⟩ := readNegation_sound depth one
      obtain ⟨rfl, rfl⟩ := Prod.mk.inj (Except.ok.inj came)
      exact ⟨.not n, .cons rfl front, rfl⟩
    · obtain ⟨a, front, rfl⟩ := readAtom_sound depth came
      exact ⟨.atom a, front, rfl⟩

theorem readAtom_sound :
    ∀ (depth : Nat) {tokens rest : List Token} {e : Expression},
      readAtom depth tokens = .ok (e, rest) →
      ∃ a : Atom, Covers a.kinds tokens rest ∧ a.tree = e
  | 0, _, _, _, came => by cases came
  | depth + 1, tokens, rest, e, came => by
    unfold readAtom at came
    split at came
    · cases came
    · next c text position behind =>
      obtain ⟨rfl, rfl⟩ := Prod.mk.inj (Except.ok.inj came)
      exact ⟨.letter c, .cons rfl .nil, rfl⟩
    · next text position behind =>
      obtain ⟨⟨inner, middle⟩, one, closed⟩ := bind_eq_ok.1 came
      obtain ⟨d, front, rfl⟩ := readDisjunction_sound depth one
      dsimp only at closed
      split at closed
      · next text' position' others =>
        obtain ⟨rfl, rfl⟩ := Prod.mk.inj (Except.ok.inj closed)
        exact ⟨.enclosed d, .cons rfl (front.append (.cons rfl .nil)), rfl⟩
      · cases closed
    · cases came

end

/-! ### Whole lists of tokens -/

/-- Tokens that have a derivation are read to its tree. -/
theorem ofTokens_of_kinds {d : Disjunction} {tokens : List Token} (same : d.kinds = kindsOf tokens) :
    ofTokens tokens = .ok d.tree := by
  have covers : Covers d.kinds tokens [] := by
    rw [same]
    exact .whole tokens
  have deep : 4 * d.kinds.length ≤ depthFor tokens := by
    rw [same, List.length_map, depthFor]
    omega
  have read := readDisjunction_complete d covers (by simp [NotFirst]) deep
  have some : tokens ≠ [] := by
    rintro rfl
    obtain ⟨first, more⟩ := d
    have pos := first.length_kinds_pos
    rw [Disjunction.kinds] at same
    simp [List.append_eq_nil_iff.1 same] at pos
  rw [ofTokens, if_neg (by simpa using some), read]
  rfl

/-- Tokens that are read have a derivation. -/
theorem kinds_of_ofTokens {tokens : List Token} {e : Expression} (read : ofTokens tokens = .ok e) :
    ∃ d : Disjunction, d.kinds = kindsOf tokens ∧ d.tree = e := by
  unfold ofTokens at read
  split at read
  · cases read
  · obtain ⟨⟨tree, rest⟩, one, ended⟩ := bind_eq_ok.1 read
    obtain ⟨d, covers, rfl⟩ := readDisjunction_sound _ one
    dsimp only at ended
    split at ended
    · obtain rfl := Except.ok.inj ended
      refine ⟨d, ?_, rfl⟩
      rw [covers.kindsOf_eq]
      simp [kindsOf]
    · cases ended

theorem mem_letters {e : Expression} {c : Char} : c ∈ e.letters ↔ c ∈ e.occurrences := by
  simp [letters]

/-- **Exactly what the grammar derives is read.**  An expression is returned when there is a
derivation of the tokens, and a fault when there is none.  There is no second derivation; the
expression is the tree of the only one, and its letters are those among the tokens. -/
theorem ofTokens_iff_derivation (tokens : List Token) :
    ((∃ e, ofTokens tokens = .ok e) ↔ ∃ d : Disjunction, d.kinds = kindsOf tokens) ∧
      ((¬∃ d : Disjunction, d.kinds = kindsOf tokens) → ∃ fault, ofTokens tokens = .error fault) ∧
      ∀ d : Disjunction, d.kinds = kindsOf tokens →
        (∀ other : Disjunction, other.kinds = kindsOf tokens → other = d) ∧
          ofTokens tokens = .ok d.tree ∧
          ∀ c, c ∈ d.tree.letters ↔ ∃ token ∈ tokens, token.kind = .letter c := by
  refine ⟨⟨?sound, ?complete⟩, ?refused, ?tree⟩
  case sound =>
    rintro ⟨e, read⟩
    obtain ⟨d, same, -⟩ := kinds_of_ofTokens read
    exact ⟨d, same⟩
  case complete =>
    rintro ⟨d, same⟩
    exact ⟨d.tree, ofTokens_of_kinds same⟩
  case refused =>
    intro none
    cases read : ofTokens tokens with
    | error fault => exact ⟨fault, rfl⟩
    | ok e =>
      obtain ⟨d, same, -⟩ := kinds_of_ofTokens read
      exact absurd ⟨d, same⟩ none
  case tree =>
    intro d same
    refine ⟨fun other same' => Disjunction.eq_of_kinds_eq (same'.trans same.symm),
      ofTokens_of_kinds same, fun c => ?_⟩
    rw [mem_letters, d.mem_occurrences, same, List.mem_map]

/-- Chains associate to the left, and *and* binds tighter than *or*. -/
example : (ofTokens [⟨.letter 'a', "a", 0⟩, ⟨.or, "or", 2⟩, ⟨.letter 'b', "b", 5⟩, ⟨.and, "and", 7⟩,
    ⟨.letter 'c', "c", 11⟩, ⟨.or, "or", 13⟩, ⟨.letter 'd', "d", 16⟩]).toOption =
    some (.or (.or (.letter 'a') (.and (.letter 'b') (.letter 'c'))) (.letter 'd')) := by
  decide +kernel

end Expression
end Eligibility
