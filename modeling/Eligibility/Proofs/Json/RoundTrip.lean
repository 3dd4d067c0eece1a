/-
# What is written is read back

A style is faithful (`Style.Faithful`) when the escape of a character reads back to it, whatever
stands behind; both styles are.  A tree written in a faithful style is read back whole, and what
stands behind it is left over, as long as the tree is nested no deeper than the reader allows
(`readTree_write`).  So a text in the plain style reads back to its tree or, past the limit, to
nothing (`ofText?_plainText`), and two trees with the same text in ASCII are the same tree
(`asciiText_injective`).
-/

import Eligibility.Proofs.Json.Number

namespace Eligibility
namespace Json

/-! ### Texts -/

theorem hex?_digitChar {d : Nat} (small : d < 16) : hex? d.digitChar = some d := by
  have all : ∀ d : Fin 16, hex? (Nat.digitChar d) = some d.val := by decide
  exact all ⟨d, small⟩

/-- The four digits of a code unit, and that they write it. -/
theorem unitEscape_eq {n : Nat} (small : n < 65536) :
    ∃ a b c d, unitEscape n = ['\\', 'u', a, b, c, d] ∧ unit? a b c d = some n := by
  refine ⟨_, _, _, _, by rw [unitEscape, Text.padded_sixteen_four small], ?_⟩
  simp only [unit?, hex?_digitChar (show n / 4096 < 16 by omega),
    hex?_digitChar (show n / 256 % 16 < 16 by omega),
    hex?_digitChar (show n / 16 % 16 < 16 by omega), hex?_digitChar (show n % 16 < 16 by omega),
    Option.bind_eq_bind, Option.bind_some, Option.pure_def, Option.some.injEq]
  omega

/-- One unit outside the surrogates is a character, also when another escape follows. -/
theorem readText_unit {n : Nat} (small : n < 65536) (scalar : n < 0xd800 ∨ 0xe000 ≤ n)
    (rest : List Char) :
    readText (unitEscape n ++ rest) = prepend (Char.ofNat n) (readText rest) := by
  obtain ⟨a, b, c, d, written, read⟩ := unitEscape_eq small
  rw [written]
  have high : (0xd800 ≤ n && n < 0xdc00) = false := by simp; omega
  have low : (0xdc00 ≤ n && n < 0xe000) = false := by simp; omega
  have surrogate : (0xd800 ≤ n && n < 0xe000) = false := by simp; omega
  simp only [List.cons_append, List.nil_append]
  rw [readText.eq_def]
  split
  · simp_all
  · simp_all
  · next eq =>
    simp only [List.cons.injEq, true_and] at eq
    obtain ⟨rfl, rfl, rfl, rfl, rfl⟩ := eq
    simp [read, high, low]
  · next eq =>
    simp only [List.cons.injEq, true_and] at eq
    obtain ⟨rfl, rfl, rfl, rfl, rfl⟩ := eq
    simp [read, surrogate]
  · next unit eq =>
    simp only [List.cons.injEq, true_and] at eq
    exact absurd eq.2.symm (unit a b c d rest eq.1.symm)
  · next escape eq =>
    simp only [List.cons.injEq] at eq
    exact absurd eq.2.symm (escape _ _ eq.1.symm)

theorem readText_pair {high low : Nat} (h : 0xd800 ≤ high ∧ high < 0xdc00)
    (l : 0xdc00 ≤ low ∧ low < 0xe000) (rest : List Char) :
    readText (unitEscape high ++ (unitEscape low ++ rest)) =
      prepend (Char.ofNat (0x10000 + (high - 0xd800) * 0x400 + (low - 0xdc00)))
        (readText rest) := by
  obtain ⟨a, b, c, d, written, read⟩ := unitEscape_eq (n := high) (by omega)
  obtain ⟨a', b', c', d', written', read'⟩ := unitEscape_eq (n := low) (by omega)
  rw [written, written']
  simp only [List.cons_append, List.nil_append]
  rw [readText]
  simp [read, read', h, l]

theorem readText_escape {c e : Char} (letter : c ≠ 'u') (stands : unescape? c = some e)
    (rest : List Char) : readText ('\\' :: c :: rest) = prepend e (readText rest) := by
  rw [readText.eq_def]
  split
  · simp_all
  · simp_all
  · simp_all
  · simp_all
  · simp_all
  · next escape eq =>
    simp only [List.cons.injEq] at eq
    exact absurd eq.2.symm (escape _ _ eq.1.symm)

theorem readText_short {c : Char} {shown : List Char} (short : shortEscape? c = some shown)
    (rest : List Char) : readText (shown ++ rest) = prepend c (readText rest) := by
  unfold shortEscape? at short
  split at short <;> cases short <;> exact readText_escape (by decide) rfl rest

theorem readText_self {c : Char} (long : shortEscape? c = none) (printable : 32 ≤ c.toNat)
    (rest : List Char) : readText (c :: rest) = prepend c (readText rest) := by
  have backslash : c ≠ '\\' := by
    rintro rfl
    cases long
  have quote : c ≠ '"' := by
    rintro rfl
    cases long
  rw [readText.eq_def]
  split <;> simp_all

/-- The escape of every character reads back to it. -/
def Style.Faithful (style : Style) : Prop :=
  ∀ c rest, readText (style.escape c ++ rest) = prepend c (readText rest)

theorem scalar_toNat (c : Char) : c.toNat < 0xd800 ∨ 0xe000 ≤ c.toNat ∧ c.toNat < 0x110000 := by
  rcases c.valid with low | high
  · exact .inl low
  · exact .inr ⟨by have := high.1; show 0xe000 ≤ c.val.toNat; omega, high.2⟩

theorem plain_faithful : Style.plain.Faithful := by
  intro c rest
  show readText (plainEscape c ++ rest) = _
  unfold plainEscape
  split
  · next short => exact readText_short short rest
  · next long =>
    split
    · rw [readText_unit (by omega) (by omega), Char.ofNat_toNat]
    · exact readText_self long (by omega) rest

theorem ascii_faithful : Style.ascii.Faithful := by
  intro c rest
  show readText (asciiEscape c ++ rest) = _
  have scalar := scalar_toNat c
  unfold asciiEscape
  split
  · next short => exact readText_short short rest
  · next long =>
    dsimp only
    split
    · next printable =>
      simp only [Bool.and_eq_true, decide_eq_true_eq] at printable
      exact readText_self long printable.1 rest
    · split
      · rw [readText_unit (by omega) (by omega), Char.ofNat_toNat]
      · rw [List.append_assoc, readText_pair (by omega) (by omega)]
        have whole : 0x10000 + (0xd800 + (c.toNat - 0x10000) / 0x400 - 0xd800) * 0x400 +
            (0xdc00 + (c.toNat - 0x10000) % 0x400 - 0xdc00) = c.toNat := by omega
        rw [whole, Char.ofNat_toNat]

theorem readText_write {style : Style} (faithful : style.Faithful) (cs rest : List Char) :
    readText (cs.flatMap style.escape ++ '"' :: rest) = some (cs, rest) := by
  induction cs with
  | nil => rfl
  | cons c cs ih =>
    rw [List.flatMap_cons, List.append_assoc, faithful, ih]
    rfl

/-! ### Trees -/

mutual

/-- How deeply arrays and objects are nested. -/
def depth : Json → Nat
  | array items => depthOfItems items + 1
  | object members => depthOfMembers members + 1
  | _ => 0

/-- The depth of the deepest item. -/
def depthOfItems : List Json → Nat
  | [] => 0
  | item :: rest => max item.depth (depthOfItems rest)

/-- The depth of the deepest member. -/
def depthOfMembers : List (String × Json) → Nat
  | [] => 0
  | (_, value) :: rest => max value.depth (depthOfMembers rest)

end

/-- A character that a tree may begin with: neither space nor the end of a list. -/
def Opens (c : Char) : Prop := isSpace c = false ∧ c ≠ ']' ∧ c ≠ '\x7d'

/-- An atom begins with a character of its own. -/
theorem head_of_readAtom? {cs : List Char} {read : Json × List Char}
    (found : readAtom? cs = some read) :
    ∃ c rest, cs = c :: rest ∧ Opens c ∧ c ≠ '"' ∧ c ≠ '[' ∧ c ≠ '\x7b' := by
  unfold readAtom? at found
  split at found
  all_goals try exact ⟨_, _, rfl, by simp [Opens, isSpace], by decide, by decide, by decide⟩
  obtain ⟨c, rest, rfl, digit⟩ := digit_of_readNumber? found
  refine ⟨c, rest, rfl, ⟨?_, ?_, ?_⟩, ?_, ?_, ?_⟩
  · by_contra space
    simp only [isSpace, Bool.not_eq_false, Bool.or_eq_true, decide_eq_true_eq] at space
    obtain ((rfl | rfl) | rfl) | rfl := space <;> cases digit
  all_goals
    rintro rfl
    cases digit

theorem readTree_atom {cs : List Char} {read : Json × List Char} (fuel depth : Nat)
    (found : readAtom? cs = some read) : readTree (fuel + 1) depth cs = some read := by
  obtain ⟨c, rest, rfl, -, quote, bracket, brace⟩ := head_of_readAtom? found
  unfold readTree
  split
  · simp_all
  · simp_all
  · simp_all
  · exact found

theorem skipSpace_cons {c : Char} (rest : List Char) (h : isSpace c = false) :
    skipSpace (c :: rest) = c :: rest := by
  simp [skipSpace, h]

variable {style : Style}

theorem endsNumber_nil : EndsNumber [] := by simp [EndsNumber]

theorem endsNumber_cons {c : Char} (rest : List Char)
    (h : c.isDigit = false ∧ c ≠ '.' ∧ c ≠ 'e' ∧ c ≠ 'E') : EndsNumber (c :: rest) := by
  simpa [EndsNumber] using h

theorem write_opens (style : Style) (t : Json) (rest : List Char) :
    ∃ c cs, style.write t ++ rest = c :: cs ∧ Opens c := by
  have atom {cs : List Char} {read : Json × List Char} (found : readAtom? (cs ++ []) = some read) :
      ∃ c ds, cs ++ rest = c :: ds ∧ Opens c := by
    obtain ⟨c, ds, eq, opens, -⟩ := head_of_readAtom? found
    rw [List.append_nil] at eq
    exact ⟨c, ds ++ rest, by rw [eq, List.cons_append], opens⟩
  have bracket : Opens '[' := by simp [Opens, isSpace]
  have brace : Opens '\x7b' := by simp [Opens, isSpace]
  unfold Style.write
  split
  · exact atom (show readAtom? _ = some (null, []) from rfl)
  · next b => exact atom (show readAtom? _ = some (bool b, []) by cases b <;> rfl)
  · next n => exact atom (readAtom?_int n endsNumber_nil)
  · next x => exact atom (readAtom?_double style x endsNumber_nil)
  · exact ⟨'"', _, rfl, by simp [Opens, isSpace]⟩
  · exact ⟨'[', _, rfl, bracket⟩
  · exact ⟨'[', _, rfl, bracket⟩
  · exact ⟨'\x7b', _, rfl, brace⟩
  · exact ⟨'\x7b', _, rfl, brace⟩

theorem write_ne_nil (style : Style) (t : Json) : 0 < (style.write t).length := by
  obtain ⟨c, cs, eq, -⟩ := write_opens style t []
  rw [List.append_nil] at eq
  simp [eq]

theorem skipSpace_write (style : Style) (t : Json) (rest : List Char) :
    skipSpace (style.write t ++ rest) = style.write t ++ rest := by
  obtain ⟨c, cs, eq, opens⟩ := write_opens style t rest
  rw [eq, skipSpace_cons cs opens.1]

theorem writeItems_cases (style : Style) (items : List Json) :
    items = [] ∧ style.writeItems items = [']'] ∨
      ∃ item rest, items = item :: rest ∧
        style.writeItems items = ',' :: (style.write item ++ style.writeItems rest) := by
  cases items with
  | nil => exact .inl ⟨rfl, rfl⟩
  | cons item rest => exact .inr ⟨item, rest, rfl, rfl⟩

theorem writeMembers_cases (style : Style) (members : List (String × Json)) :
    members = [] ∧ style.writeMembers members = ['\x7d'] ∨
      ∃ key value rest, members = (key, value) :: rest ∧
        style.writeMembers members = ',' :: (style.writeText key ++ ':' ::
          (style.write value ++ style.writeMembers rest)) := by
  cases members with
  | nil => exact .inl ⟨rfl, rfl⟩
  | cons member rest => exact .inr ⟨member.1, member.2, rest, rfl, rfl⟩

theorem readTree_quote (fuel depth : Nat) (rest : List Char) :
    readTree (fuel + 1) depth ('"' :: rest) =
      (readText rest).map fun (s, rest) => (text (String.ofList s), rest) := rfl

/-- Behind an opening bracket, when the list does not end there. -/
theorem readTree_bracket (fuel depth : Nat) {c : Char} (cs : List Char) (opens : Opens c) :
    readTree (fuel + 1) (depth + 1) ('[' :: c :: cs) =
      (readItems fuel depth (c :: cs)).map fun (items, rest) => (array items, rest) := by
  simp only [readTree, skipSpace_cons cs opens.1]
  split
  · next close => exact absurd (List.cons.inj close).1 opens.2.1
  · rfl

theorem readTree_brace (fuel depth : Nat) {c : Char} (cs : List Char) (opens : Opens c) :
    readTree (fuel + 1) (depth + 1) ('\x7b' :: c :: cs) =
      (readMembers fuel depth (c :: cs)).map fun (members, rest) => (object members, rest) := by
  simp only [readTree, skipSpace_cons cs opens.1]
  split
  · next close => exact absurd (List.cons.inj close).1 opens.2.2
  · rfl

mutual

/-- **A written tree is read back** when it is nested no deeper than allowed, and is refused
otherwise. -/
theorem readTree_write (faithful : style.Faithful) (t : Json) (fuel depth : Nat)
    (rest : List Char) (enough : (style.write t).length ≤ fuel) (stop : EndsNumber rest) :
    readTree fuel depth (style.write t ++ rest) =
      if t.depth ≤ depth then some (t, rest) else none := by
  obtain ⟨fuel, rfl⟩ : ∃ k, fuel = k + 1 :=
    ⟨fuel - 1, by have := write_ne_nil style t; omega⟩
  match shape : t with
  | .null => exact readTree_atom fuel depth rfl
  | .bool b => exact readTree_atom fuel depth (by cases b <;> rfl)
  | .int n => exact readTree_atom fuel depth (readAtom?_int n stop)
  | .double x => exact readTree_atom fuel depth (readAtom?_double style x stop)
  | .text s =>
    rw [Style.write, Style.writeText, List.cons_append, readTree_quote, List.append_assoc,
      List.singleton_append, readText_write faithful]
    simp [Json.depth]
  | .array [] =>
    cases depth <;> simp [Style.write, readTree, skipSpace_cons, isSpace, Json.depth, depthOfItems]
  | .array (item :: items) =>
    rw [Style.write] at enough ⊢
    simp only [List.cons_append, List.append_assoc]
    cases depth with
    | zero => simp [readTree, Json.depth]
    | succ depth =>
      have read := readItems_write faithful item items fuel depth rest (by simpa using enough)
      obtain ⟨c, cs, eq, opens⟩ := write_opens style item (style.writeItems items ++ rest)
      rw [eq] at read ⊢
      rw [readTree_bracket fuel depth cs opens, read]
      simp only [Json.depth, Nat.add_le_add_iff_right]
      split <;> rfl
  | .object [] =>
    cases depth <;>
      simp [Style.write, readTree, skipSpace_cons, isSpace, Json.depth, depthOfMembers]
  | .object ((key, value) :: members) =>
    rw [Style.write] at enough ⊢
    simp only [List.cons_append, List.append_assoc]
    cases depth with
    | zero => simp [readTree, Json.depth]
    | succ depth =>
      have read := readMembers_write faithful key value members fuel depth rest
        (by simpa using enough)
      rw [Style.writeText, List.cons_append] at read ⊢
      rw [readTree_brace fuel depth _ (by simp [Opens, isSpace]), read]
      simp only [Json.depth, Nat.add_le_add_iff_right]
      split <;> rfl
  termination_by sizeOf t
  decreasing_by
    all_goals
      subst shape
      simp only [array.sizeOf_spec, object.sizeOf_spec, List.cons.sizeOf_spec, Prod.mk.sizeOf_spec]
      omega

theorem readItems_write (faithful : style.Faithful) (item : Json) (items : List Json)
    (fuel depth : Nat) (rest : List Char)
    (enough : (style.write item ++ style.writeItems items).length ≤ fuel) :
    readItems fuel depth (style.write item ++ (style.writeItems items ++ rest)) =
      if depthOfItems (item :: items) ≤ depth then some (item :: items, rest) else none := by
  obtain ⟨fuel, rfl⟩ : ∃ k, fuel = k + 1 :=
    ⟨fuel - 1, by have := write_ne_nil style item; simp only [List.length_append] at enough; omega⟩
  simp only [List.length_append] at enough
  simp only [readItems, depthOfItems, Nat.max_le]
  rcases writeItems_cases style items with ⟨rfl, shown⟩ | ⟨next, later, rfl, shown⟩
  · rw [shown] at enough ⊢
    simp only [List.length_singleton] at enough
    rw [List.singleton_append, readTree_write faithful item _ _ _ (by omega)
      (endsNumber_cons _ (by decide))]
    simp only [depthOfItems, Nat.zero_le, and_true]
    split
    · simp [skipSpace_cons, isSpace]
    · rfl
  · rw [shown] at enough ⊢
    simp only [List.length_cons, List.length_append] at enough
    rw [List.cons_append, readTree_write faithful item _ _ _ (by omega)
      (endsNumber_cons _ (by decide))]
    rw [List.append_assoc]
    by_cases fits : item.depth ≤ depth
    · have comma : isSpace ',' = false := rfl
      have read := readItems_write faithful next later fuel depth rest
        (by simp only [List.length_append]; omega)
      simp only [fits, if_true, Option.bind_eq_bind, Option.bind_some, skipSpace_cons _ comma,
        skipSpace_write, read, true_and]
      split <;> rfl
    · simp [fits]
  termination_by sizeOf item + sizeOf items

theorem readMembers_write (faithful : style.Faithful) (key : String) (value : Json)
    (members : List (String × Json)) (fuel depth : Nat) (rest : List Char)
    (enough : (style.writeText key ++ ':' :: (style.write value ++
      style.writeMembers members)).length ≤ fuel) :
    readMembers fuel depth (style.writeText key ++ ':' :: (style.write value ++
        (style.writeMembers members ++ rest))) =
      if depthOfMembers ((key, value) :: members) ≤ depth then
        some ((key, value) :: members, rest)
      else none := by
  obtain ⟨fuel, rfl⟩ : ∃ k, fuel = k + 1 :=
    ⟨fuel - 1, by simp only [List.length_append, List.length_cons] at enough; omega⟩
  simp only [List.length_append, List.length_cons] at enough
  have colon : isSpace ':' = false := rfl
  rw [Style.writeText, List.cons_append, List.append_assoc, List.singleton_append]
  simp only [readMembers, depthOfMembers, Nat.max_le, readText_write faithful,
    Option.bind_eq_bind, Option.bind_some, skipSpace_cons _ colon, skipSpace_write]
  rcases writeMembers_cases style members with ⟨rfl, shown⟩ | ⟨next, found, later, rfl, shown⟩
  · rw [shown] at enough ⊢
    simp only [List.length_singleton] at enough
    rw [List.singleton_append, readTree_write faithful value _ _ _ (by omega)
      (endsNumber_cons _ (by decide))]
    simp only [depthOfMembers, Nat.zero_le, and_true]
    split
    · simp [skipSpace_cons, isSpace]
    · rfl
  · rw [shown] at enough ⊢
    simp only [List.length_cons, List.length_append] at enough
    rw [List.cons_append, readTree_write faithful value _ _ _ (by omega)
      (endsNumber_cons _ (by decide))]
    by_cases fits : value.depth ≤ depth
    · have comma : isSpace ',' = false := rfl
      have quote : isSpace '"' = false := rfl
      have read := readMembers_write faithful next found later fuel depth rest
        (by simp only [List.length_append, List.length_cons]; omega)
      simp only [Style.writeText, List.cons_append, List.append_assoc, List.nil_append] at read ⊢
      simp only [fits, if_true, Option.bind_some, skipSpace_cons _ comma,
        skipSpace_cons _ quote, read, true_and, String.ofList_toList]
      split <;> rfl
    · simp [fits]
  termination_by sizeOf value + sizeOf members

end

theorem ofTextWithin?_write (faithful : style.Faithful) (limit : Nat) (t : Json) :
    ofTextWithin? limit (String.ofList (style.write t)) =
      if t.depth ≤ limit then some t else none := by
  have start := skipSpace_write style t []
  have read := readTree_write faithful t ((style.write t).length + 1) limit []
    (Nat.le_succ _) endsNumber_nil
  rw [List.append_nil] at start read
  unfold ofTextWithin?
  rw [String.toList_ofList, String.length_ofList, start, read]
  split <;> rfl

/-- **The text of a tree reads back to the tree**, or to nothing when it is nested too deeply. -/
theorem ofText?_plainText (t : Json) :
    ofText? (plainText t) = if t.depth ≤ nestingLimit then some t else none :=
  ofTextWithin?_write plain_faithful nestingLimit t

/-- **Different trees have different texts** in ASCII. -/
theorem asciiText_injective {s t : Json} (same : asciiText s = asciiText t) : s = t := by
  have left := ofTextWithin?_write ascii_faithful (max s.depth t.depth) s
  have right := ofTextWithin?_write ascii_faithful (max s.depth t.depth) t
  rw [if_pos (Nat.le_max_left _ _)] at left
  rw [if_pos (Nat.le_max_right _ _)] at right
  have texts : String.ofList (Style.ascii.write s) = String.ofList (Style.ascii.write t) := same
  rw [texts, right] at left
  exact (Option.some.inj left).symm

end Json
end Eligibility
