/-
# The characters that show a value

How a value is shown inside another, character by character: collections as their items between
commas (`listed`) in brackets.  The first character tells which family a value is from (`marked`).
-/

import Eligibility.Proofs.Json.Number
import Eligibility.Proofs.Text.Listed
import Eligibility.Proofs.Text.Quoted

namespace Eligibility
namespace Value

open Text (Opens Closes listed)

/-- The families of values that the first character of their text tells. -/
inductive Mark where
  | null
  | missing
  | bool
  | number
  | decimal
  | text
  | bytes
  | calendar
  | list
  | tuple
  | frozenSet
  | braced
  | closing
  deriving DecidableEq

/-- The family that a first character tells. -/
def markOf (c : Char) : Mark :=
  if c = 'N' then .null
  else if c = 'M' then .missing
  else if c = 'T' || c = 'F' then .bool
  else if c = 'D' then .decimal
  else if c = '\'' || c = '"' then .text
  else if c = 'b' then .bytes
  else if c = 'd' then .calendar
  else if c = '[' then .list
  else if c = '(' then .tuple
  else if c = 'f' then .frozenSet
  else if c = 's' || c = '\x7b' then .braced
  else if c = ')' || c = ']' || c = '\x7d' then .closing
  else .number

/-- The family of a value. -/
def mark : Value → Mark
  | null => .null
  | missing => .missing
  | bool _ => .bool
  | int _ => .number
  | double _ => .number
  | decimal _ => .decimal
  | text _ => .text
  | bytes _ => .bytes
  | date _ => .calendar
  | moment _ => .calendar
  | clock .. => .calendar
  | list _ => .list
  | tuple _ => .tuple
  | set _ => .braced
  | frozenSet _ => .frozenSet
  | map _ => .braced

/-- A text begins with the mark of a family. -/
def Marked (m : Mark) (cs : List Char) : Prop := ∃ c rest, cs = c :: rest ∧ markOf c = m

theorem markOf_of_isDigit {c : Char} (digit : c.isDigit = true) : markOf c = .number := by
  have other {d : Char} (none : d.isDigit = false) : c ≠ d := by
    rintro rfl
    rw [none] at digit
    cases digit
  simp [markOf, other]

/-! ### The characters of values -/

/-- The characters that show a value inside another. -/
def shown (v : Value) : List Char := v.quoted.toList

/-- The characters of a member: key and value around a colon. -/
def shownMember (m : Value × Value) : List Char := shown m.1 ++ ':' :: ' ' :: shown m.2

theorem quoted_int (n : Int) : quoted (int n) = toString n := rfl

theorem quoted_decimal (d : Decimal) :
    quoted (decimal d) = "Decimal(" ++ Text.quoted d.text ++ ")" := rfl

theorem quoted_text (s : String) : quoted (text s) = Text.quoted s := rfl

theorem quoted_bytes (data : List UInt8) : quoted (bytes data) = Text.quotedBytes data := rfl

theorem quoted_date (d : Date) : quoted (date d) =
    bracketed "datetime.date(" ")" [toString d.year, toString d.month, toString d.day] := rfl

theorem quoted_moment (m : Moment) : quoted (moment m) = bracketed "datetime.datetime(" ")"
    ([toString m.date.year, toString m.date.month, toString m.date.day] ++ m.clock.parts ++
      offsetParts m.offset) := rfl

theorem quoted_clock (c : Clock) (offset : Option Offset) : quoted (clock c offset) =
    bracketed "datetime.time(" ")" (c.parts ++ offsetParts offset) := rfl

theorem quoted_list (items : List Value) :
    quoted (list items) = bracketed "[" "]" (quotedItems items) := rfl

theorem quoted_tuple (items : List Value) :
    quoted (tuple items) = tupleText (quotedItems items) := rfl

theorem quoted_set (items : List Value) : quoted (set items) = setText (quotedItems items) := rfl

theorem quoted_frozenSet (items : List Value) :
    quoted (frozenSet items) = frozenSetText (quotedItems items) := rfl

theorem quoted_map (members : List (Value × Value)) :
    quoted (map members) = bracketed "\x7b" "\x7d" (quotedMembers members) := rfl

theorem quotedItems_cons (item : Value) (rest : List Value) :
    quotedItems (item :: rest) = item.quoted :: quotedItems rest := rfl

theorem quotedMembers_cons (m : Value × Value) (rest : List (Value × Value)) :
    quotedMembers (m :: rest) = (m.1.quoted ++ ": " ++ m.2.quoted) :: quotedMembers rest := rfl

theorem listed_quotedItems (items : List Value) :
    (commaSeparated (quotedItems items)).toList = listed shown items := by
  have each : quotedItems items = items.map quoted := by
    induction items with
    | nil => rfl
    | cons item rest ih => rw [quotedItems_cons, ih, List.map_cons]
  rw [each, Text.toList_commaSeparated, Text.listed_map]
  rfl

theorem listed_quotedMembers (members : List (Value × Value)) :
    (commaSeparated (quotedMembers members)).toList = listed shownMember members := by
  have each : quotedMembers members =
      members.map fun m => String.ofList (shownMember m) := by
    induction members with
    | nil => rfl
    | cons m rest ih =>
      have first : m.1.quoted ++ ": " ++ m.2.quoted = String.ofList (shownMember m) := by
        rw [← String.toList_inj, String.toList_ofList, shownMember]
        simp [shown]
      rw [quotedMembers_cons, ih, List.map_cons, first]
  rw [each, Text.toList_commaSeparated, Text.listed_map]
  simp only [String.toList_ofList]

theorem shown_list (items : List Value) :
    shown (list items) = '[' :: (listed shown items ++ [']']) := by
  rw [shown, quoted_list, bracketed, String.toList_append, String.toList_append,
    listed_quotedItems]
  rfl

/-- What closes a tuple; a tuple of one keeps a comma. -/
def tupleEnd : List Value → List Char
  | [_] => [',', ')']
  | _ => [')']

theorem shown_tuple (items : List Value) :
    shown (tuple items) = '(' :: (listed shown items ++ tupleEnd items) := by
  rw [shown, quoted_tuple, ← listed_quotedItems]
  match items with
  | [] => rfl
  | [item] =>
    rw [quotedItems, quotedItems, tupleText, String.toList_append, String.toList_append]
    simp [commaSeparated, tupleEnd]
  | item :: next :: rest =>
    rw [quotedItems, quotedItems, tupleText, bracketed, String.toList_append, String.toList_append]
    · rfl
    · intro part one
      cases (List.cons.inj one).2

theorem shown_set (item : Value) (rest : List Value) :
    shown (set (item :: rest)) = '\x7b' :: (listed shown (item :: rest) ++ ['\x7d']) := by
  rw [shown, quoted_set, setText, if_neg (by simp [quotedItems_cons]), bracketed,
    String.toList_append, String.toList_append, listed_quotedItems]
  rfl

theorem shown_frozenSet (item : Value) (rest : List Value) :
    shown (frozenSet (item :: rest)) =
      "frozenset(\x7b".toList ++ (listed shown (item :: rest) ++ ['\x7d', ')']) := by
  rw [shown, quoted_frozenSet, frozenSetText, if_neg (by simp [quotedItems_cons]), bracketed,
    String.toList_append, String.toList_append, listed_quotedItems, List.append_assoc]
  rfl

theorem shown_map (members : List (Value × Value)) :
    shown (map members) = '\x7b' :: (listed shownMember members ++ ['\x7d']) := by
  rw [shown, quoted_map, bracketed, String.toList_append, String.toList_append,
    listed_quotedMembers]
  rfl

/-! ### Numbers -/

theorem marked_signed {body : List Char} (digit : Marked .number body) (negative : Bool) :
    Marked .number (if negative then '-' :: body else body) := by
  cases negative with
  | false => exact digit
  | true => exact ⟨'-', body, rfl, rfl⟩

theorem marked_toDigits (n : Nat) : Marked .number (Nat.toDigits 10 n) := by
  obtain ⟨c, cs, shown, digit⟩ := Text.head_toDigits n
  exact ⟨c, cs, shown, markOf_of_isDigit digit⟩

theorem marked_int (n : Int) : Marked .number (shown (int n)) := by
  rw [shown, quoted_int]
  cases n with
  | ofNat n =>
    rw [Text.toList_ofNat]
    exact marked_toDigits n
  | negSucc n =>
    rw [Text.toList_negSucc]
    exact ⟨'-', _, rfl, rfl⟩

theorem marked_double (x : Double) : Marked .number (shown (double x)) := by
  cases x with
  | nan => exact ⟨'n', _, rfl, rfl⟩
  | infinite negative =>
    cases negative with
    | false => exact ⟨'i', _, rfl, rfl⟩
    | true => exact ⟨'-', _, rfl, rfl⟩
  | finite negative units exact =>
    show Marked .number ((Double.finite negative units exact).textIn .usual).toList
    rw [Json.textIn_finite .usual negative exact (Prod.eta _).symm, String.toList_ofList]
    apply marked_signed
    split
    · exact ⟨'0', _, rfl, rfl⟩
    · next nonzero =>
      have read := Json.readNumber?_write .usual negative (Json.shortest_ne_zero nonzero exact)
        (Double.shortest units).2 (show Json.EndsNumber [] from nofun)
      rw [List.append_nil] at read
      obtain ⟨c, cs, shown, digit⟩ := Json.digit_of_readNumber? read
      exact ⟨c, cs, shown, markOf_of_isDigit digit⟩

/-! ### First characters -/

theorem Marked.append {m : Mark} {cs : List Char} (marked : Marked m cs) (ds : List Char) :
    Marked m (cs ++ ds) := by
  obtain ⟨c, rest, rfl, eq⟩ := marked
  exact ⟨c, rest ++ ds, rfl, eq⟩

theorem Marked.unique {m n : Mark} {cs : List Char} (marked : Marked m cs) (marked' : Marked n cs) :
    m = n := by
  obtain ⟨c, rest, rfl, eq⟩ := marked
  obtain ⟨d, more, same, eq'⟩ := marked'
  rw [← eq, ← eq', (List.cons.inj same).1]

theorem marked_quote {quote : Char} (isQuote : Text.IsQuote quote) (cs : List Char) :
    Marked .text (quote :: cs) := by
  obtain rfl | rfl := isQuote
  · exact ⟨_, _, rfl, rfl⟩
  · exact ⟨_, _, rfl, rfl⟩

theorem toList_bracketed (opening closing : String) (parts : List String) :
    (bracketed opening closing parts).toList =
      opening.toList ++ ((commaSeparated parts).toList ++ closing.toList) := by
  rw [bracketed, String.toList_append, String.toList_append, List.append_assoc]

/-- The first character of a value tells its family. -/
theorem marked (v : Value) : Marked v.mark (shown v) := by
  cases v with
  | null => exact ⟨'N', _, rfl, rfl⟩
  | missing => exact ⟨'M', _, rfl, rfl⟩
  | bool b =>
    cases b with
    | false => exact ⟨'F', _, rfl, rfl⟩
    | true => exact ⟨'T', _, rfl, rfl⟩
  | int n => exact marked_int n
  | double x => exact marked_double x
  | decimal d =>
    rw [shown, quoted_decimal, String.toList_append, String.toList_append]
    exact ⟨'D', _, rfl, rfl⟩
  | text s =>
    rw [shown, quoted_text, Text.quoted, String.toList_ofList]
    exact marked_quote (Text.isQuote_quoteFor _) _
  | bytes data =>
    rw [shown, quoted_bytes, Text.quotedBytes, String.toList_ofList]
    exact ⟨'b', _, rfl, rfl⟩
  | date | moment | clock =>
    simp only [shown, quoted_date, quoted_moment, quoted_clock, toList_bracketed]
    exact ⟨'d', _, rfl, rfl⟩
  | list items =>
    rw [shown_list]
    exact ⟨_, _, rfl, rfl⟩
  | tuple items =>
    rw [shown_tuple]
    exact ⟨_, _, rfl, rfl⟩
  | set items =>
    cases items with
    | nil => exact ⟨'s', _, rfl, rfl⟩
    | cons item rest =>
      rw [shown_set]
      exact ⟨_, _, rfl, rfl⟩
  | frozenSet items =>
    cases items with
    | nil => exact ⟨'f', _, rfl, rfl⟩
    | cons item rest =>
      rw [shown_frozenSet]
      exact ⟨'f', _, rfl, rfl⟩
  | map members =>
    rw [shown_map]
    exact ⟨_, _, rfl, rfl⟩

theorem opens_shown (v : Value) : Opens (shown v) := by
  obtain ⟨c, rest, eq, family⟩ := v.marked
  refine ⟨c, rest, eq, ?_⟩
  rintro (rfl | rfl | rfl)
  all_goals
    cases v with
    | _ => cases family

theorem opens_shownMember (m : Value × Value) : Opens (shownMember m) := by
  obtain ⟨c, rest, eq, other⟩ := opens_shown m.1
  exact ⟨c, _, by rw [shownMember, eq, List.cons_append], other⟩

theorem mark_eq {v w : Value} {cs ds : List Char} (same : shown v ++ cs = shown w ++ ds) :
    v.mark = w.mark :=
  (v.marked.append cs).unique (by rw [same]; exact w.marked.append ds)

end Value
end Eligibility
