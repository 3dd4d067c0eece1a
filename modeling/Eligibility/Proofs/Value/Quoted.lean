/-
# Values are told apart by how they are shown

The text that shows a value inside another tells it apart from every other value, whatever stands
behind it (`told`).  Values of different families begin differently; within a family, numbers are
read back, calendar values are told by their parts, collections by their items, and a set from a
map by the colon behind the first key.
-/

import Eligibility.Proofs.Calendar.Quoted
import Eligibility.Proofs.Decimal.ReadBack
import Eligibility.Proofs.Value.Shown

namespace Eligibility
namespace Value

open Text (Told EndsItem Closes listed listed_inj)

/-! ### Numbers -/

/-- The number that a text begins with; a word is told by its first letter. -/
def numeralOf (cs : List Char) : Value :=
  match Json.readAtom? cs with
  | some (.int n, _) => int n
  | some (.double x, _) => double x
  | _ =>
    if cs.head? = some 'n' then double .nan
    else double (.infinite (cs.head? = some '-'))

theorem numeralOf_int (n : Int) {cs : List Char} (stop : EndsItem cs) :
    numeralOf (shown (int n) ++ cs) = int n := by
  have read := Json.readAtom?_int n stop.endsNumber
  rw [numeralOf, shown, quoted_int, read]

theorem numeralOf_double (x : Double) {cs : List Char} (stop : EndsItem cs) :
    numeralOf (shown (double x) ++ cs) = double x := by
  cases x with
  | nan => rfl
  | infinite negative =>
    cases negative with
    | false => rfl
    | true => rfl
  | finite negative units exact =>
    have read := Json.readAtom?_double .ascii (.finite negative units exact) stop.endsNumber
    rw [numeralOf]
    show (match Json.readAtom? (Json.Style.ascii.writeDouble (.finite negative units exact) ++ cs)
      with
      | some (.int n, _) => int n
      | some (.double x, _) => double x
      | _ => _) = _
    rw [read]

theorem numeralOf_number {v : Value} (number : v.mark = .number) {cs : List Char}
    (stop : EndsItem cs) : numeralOf (shown v ++ cs) = v := by
  cases v with
  | int n => exact numeralOf_int n stop
  | double x => exact numeralOf_double x stop
  | _ => cases number

/-! ### Calendar values -/

/-- Numbers and an offset behind a name, in brackets. -/
def spelled (name : String) (numbers : List Nat) (offset : Option Offset) : List Char :=
  name.toList ++
    ((commaSeparated (numbers.map toString ++ offsetParts offset)).toList ++ [')'])

theorem spelled_inj {name : String} {m n : List Nat} {o p : Option Offset} {cs ds : List Char}
    (same : spelled name m o ++ cs = spelled name n p ++ ds) : m = n ∧ o = p := by
  rw [spelled, spelled, List.append_assoc, List.append_assoc, List.append_assoc,
    List.append_assoc] at same
  exact CalendarPart.commaSeparated_inj (List.append_cancel_left same)

/-- The numbers of a date. -/
def dateNumbers (d : Date) : List Nat := [d.year, d.month, d.day]

theorem eq_of_dateNumbers {d e : Date} (same : dateNumbers d = dateNumbers e) : d = e := by
  obtain ⟨year, rest⟩ := List.cons.inj same
  obtain ⟨month, rest⟩ := List.cons.inj rest
  obtain ⟨day, -⟩ := List.cons.inj rest
  exact Date.eq_of_parts year month day

theorem shown_date (d : Date) :
    shown (date d) = spelled "datetime.date(" (dateNumbers d) none := by
  rw [shown, quoted_date, toList_bracketed, spelled, offsetParts, List.append_nil]
  rfl

theorem shown_moment (m : Moment) :
    shown (moment m) =
      spelled "datetime.datetime(" (dateNumbers m.date ++ m.clock.numbers) m.offset := by
  rw [shown, quoted_moment, toList_bracketed, spelled, List.map_append, ← Clock.parts_eq]
  rfl

theorem shown_clock (c : Clock) (offset : Option Offset) :
    shown (clock c offset) = spelled "datetime.time(" c.numbers offset := by
  rw [shown, quoted_clock, toList_bracketed, spelled, ← Clock.parts_eq]
  rfl

theorem told_calendar {v w : Value} (calendar : v.mark = .calendar)
    (calendar' : w.mark = .calendar) : Told shown v w := by
  intro cs ds _ _ same
  -- the three names differ in their tenth letter or in their fourteenth
  have letter (place : Nat) := congrArg (fun cs : List Char => cs[place]?) same
  cases v with
  | date d =>
    cases w with
    | date e =>
      rw [shown_date, shown_date] at same
      rw [eq_of_dateNumbers (spelled_inj same).1]
    | moment n =>
      rw [shown_date, shown_moment] at letter
      cases show some '(' = some 't' from letter 13
    | clock d offset' =>
      rw [shown_date, shown_clock] at letter
      cases show some 'd' = some 't' from letter 9
    | _ => cases calendar'
  | moment m =>
    cases w with
    | date e =>
      rw [shown_moment, shown_date] at letter
      cases show some 't' = some '(' from letter 13
    | moment n =>
      rw [shown_moment, shown_moment] at same
      obtain ⟨numbers, offset⟩ := spelled_inj same
      obtain ⟨dates, clocks⟩ := List.append_inj numbers rfl
      obtain ⟨d, c, o⟩ := m
      obtain ⟨e, f, p⟩ := n
      rw [show d = e from eq_of_dateNumbers dates, show c = f from Clock.eq_of_numbers clocks,
        show o = p from offset]
    | clock d offset' =>
      rw [shown_moment, shown_clock] at letter
      cases show some 'd' = some 't' from letter 9
    | _ => cases calendar'
  | clock c offset =>
    cases w with
    | date e =>
      rw [shown_clock, shown_date] at letter
      cases show some 't' = some 'd' from letter 9
    | moment n =>
      rw [shown_clock, shown_moment] at letter
      cases show some 't' = some 'd' from letter 9
    | clock d offset' =>
      rw [shown_clock, shown_clock] at same
      obtain ⟨numbers, rfl⟩ := spelled_inj same
      rw [Clock.eq_of_numbers numbers]
    | _ => cases calendar'
  | _ => cases calendar

/-! ### Values inside values -/

/-- The values right inside a value: items, or keys and values. -/
def inner : Value → List Value
  | list items => items
  | tuple items => items
  | set items => items
  | frozenSet items => items
  | map members => members.flatMap fun m => [m.1, m.2]
  | _ => []

theorem key_mem_inner {members : List (Value × Value)} {m : Value × Value} (member : m ∈ members) :
    m.1 ∈ (map members).inner :=
  List.mem_flatMap.2 ⟨m, member, by simp⟩

theorem value_mem_inner {members : List (Value × Value)} {m : Value × Value}
    (member : m ∈ members) : m.2 ∈ (map members).inner :=
  List.mem_flatMap.2 ⟨m, member, by simp⟩

theorem sizeOf_lt_of_mem_inner {v w : Value} (member : w ∈ v.inner) : sizeOf w < sizeOf v := by
  cases v with
  | list items | tuple items | set items | frozenSet items =>
    have smaller := List.sizeOf_lt_of_mem (show w ∈ items from member)
    simp only [list.sizeOf_spec, tuple.sizeOf_spec, set.sizeOf_spec, frozenSet.sizeOf_spec]
    omega
  | map members =>
    obtain ⟨⟨key, value⟩, among, part⟩ := List.mem_flatMap.1 member
    have smaller := List.sizeOf_lt_of_mem among
    simp only [Prod.mk.sizeOf_spec] at smaller
    simp only [map.sizeOf_spec]
    obtain rfl | rfl : w = key ∨ w = value := by simpa using part
    · omega
    · omega
  | _ => cases member

/-- What holds of a value when it does of those right inside holds of every value. -/
theorem induction_inner {motive : Value → Prop}
    (step : ∀ v, (∀ w ∈ v.inner, motive w) → motive v) (v : Value) : motive v :=
  step v fun w _ => induction_inner step w
termination_by sizeOf v
decreasing_by exact sizeOf_lt_of_mem_inner ‹_›

/-! ### Collections -/

theorem told_member {m n : Value × Value} (key : ∀ w, Told shown m.1 w)
    (value : ∀ w, Told shown m.2 w) : Told shownMember m n := by
  intro cs ds stop stop' same
  rw [shownMember, shownMember, List.append_assoc, List.append_assoc] at same
  obtain ⟨keys, behind⟩ := (key n.1).behind (Text.endsItem_colon _) (Text.endsItem_colon _) same
  have values := value n.2 cs ds stop stop' (List.cons.inj (List.cons.inj behind).2).2
  exact Prod.ext keys values

/-- A set is no map: a colon follows the first key of a map, and none follows an item. -/
theorem listed_ne_listed {item : Value} {items : List Value} {members : List (Value × Value)}
    (told : ∀ m ∈ members, Told shown item m.1) {cs ds : List Char} :
    listed shown (item :: items) ++ '\x7d' :: cs ≠ listed shownMember members ++ '\x7d' :: ds := by
  have closes : Closes '\x7d' := .inr (.inr rfl)
  intro same
  rw [listed, List.append_assoc] at same
  cases members with
  | nil => exact (opens_shown item).ne_close closes same.symm
  | cons m rest =>
    rw [listed, shownMember, List.append_assoc, List.append_assoc] at same
    have behind := ((told m (by simp)).behind
      (Text.endsItem_listedMore items (closes.endsItem cs)) (Text.endsItem_colon _) same).2
    cases items with
    | nil => cases (List.cons.inj behind).1
    | cons next more =>
      rw [Text.listedMore_cons] at behind
      cases (List.cons.inj behind).1

theorem endsItem_tupleEnd (items : List Value) (cs : List Char) :
    EndsItem (tupleEnd items ++ cs) := by
  match items with
  | [] => exact Closes.endsItem (.inl rfl) cs
  | [_] => exact Text.endsItem_comma _
  | _ :: _ :: _ => exact Closes.endsItem (.inl rfl) cs

/-- The items of a tuple are told apart. -/
theorem listed_tupleEnd_inj {items items' : List Value}
    (told : ∀ item ∈ items, ∀ w, Told shown item w) {cs ds : List Char}
    (same : listed shown items ++ (tupleEnd items ++ cs) =
      listed shown items' ++ (tupleEnd items' ++ ds)) : items = items' := by
  have closes : Closes ')' := .inl rfl
  cases items with
  | nil =>
    cases items' with
    | nil => rfl
    | cons item' rest' =>
      rw [listed, listed, List.append_assoc] at same
      exact ((opens_shown item').ne_close closes same).elim
  | cons item rest =>
    cases items' with
    | nil =>
      rw [listed, listed, List.append_assoc] at same
      exact ((opens_shown item).ne_close closes same.symm).elim
    | cons item' rest' =>
      rw [listed, listed, List.append_assoc, List.append_assoc] at same
      obtain ⟨rfl, behind⟩ := (told item (by simp) item').behind
        (Text.endsItem_listedMore rest (endsItem_tupleEnd _ cs))
        (Text.endsItem_listedMore rest' (endsItem_tupleEnd _ ds)) same
      -- a tuple of one closes behind its comma, where a longer one has a space
      cases rest with
      | nil =>
        cases rest' with
        | nil => rfl
        | cons next' more' =>
          rw [Text.listedMore_cons] at behind
          cases (List.cons.inj (List.cons.inj behind).2).1
      | cons next more =>
        cases rest' with
        | nil =>
          rw [Text.listedMore_cons] at behind
          cases (List.cons.inj (List.cons.inj behind).2).1
        | cons next' more' =>
          rw [Text.listedMore_inj (fun v member => told v (List.mem_cons_of_mem _ member)) closes
            closes behind]

theorem told_list {items items' : List Value} (told : ∀ item ∈ items, ∀ w, Told shown item w) :
    Told shown (list items) (list items') := by
  intro cs ds _ _ same
  have closes : Closes ']' := .inr (.inl rfl)
  rw [shown_list, shown_list, List.cons_append, List.cons_append, List.append_assoc,
    List.append_assoc] at same
  rw [listed_inj told opens_shown closes closes (List.cons.inj same).2]

theorem told_tuple {items items' : List Value} (told : ∀ item ∈ items, ∀ w, Told shown item w) :
    Told shown (tuple items) (tuple items') := by
  intro cs ds _ _ same
  rw [shown_tuple, shown_tuple, List.cons_append, List.cons_append, List.append_assoc,
    List.append_assoc] at same
  rw [listed_tupleEnd_inj told (List.cons.inj same).2]

theorem told_set {items items' : List Value} (told : ∀ item ∈ items, ∀ w, Told shown item w) :
    Told shown (set items) (set items') := by
  intro cs ds _ _ same
  have closes : Closes '\x7d' := .inr (.inr rfl)
  cases items with
  | nil =>
    cases items' with
    | nil => rfl
    | cons item' rest' =>
      rw [shown_set] at same
      cases (List.cons.inj same).1
  | cons item rest =>
    rw [shown_set] at same
    cases items' with
    | nil => cases (List.cons.inj same).1
    | cons item' rest' =>
      rw [shown_set, List.cons_append, List.cons_append, List.append_assoc,
        List.append_assoc] at same
      rw [listed_inj told opens_shown closes closes (List.cons.inj same).2]

theorem told_frozenSet {items items' : List Value}
    (told : ∀ item ∈ items, ∀ w, Told shown item w) :
    Told shown (frozenSet items) (frozenSet items') := by
  intro cs ds _ _ same
  have closes : Closes '\x7d' := .inr (.inr rfl)
  have letter := congrArg (fun cs : List Char => cs[10]?) same
  cases items with
  | nil =>
    cases items' with
    | nil => rfl
    | cons item' rest' =>
      rw [shown_frozenSet] at letter
      cases show some ')' = some '\x7b' from letter
  | cons item rest =>
    cases items' with
    | nil =>
      rw [shown_frozenSet] at letter
      cases show some '\x7b' = some ')' from letter
    | cons item' rest' =>
      rw [shown_frozenSet, shown_frozenSet, List.append_assoc, List.append_assoc,
        List.append_assoc, List.append_assoc] at same
      rw [listed_inj told opens_shown closes closes (List.append_cancel_left same)]

theorem told_map {members members' : List (Value × Value)}
    (keys : ∀ m ∈ members, ∀ w, Told shown m.1 w) (values : ∀ m ∈ members, ∀ w, Told shown m.2 w) :
    Told shown (map members) (map members') := by
  intro cs ds _ _ same
  have closes : Closes '\x7d' := .inr (.inr rfl)
  rw [shown_map, shown_map, List.cons_append, List.cons_append, List.append_assoc,
    List.append_assoc] at same
  rw [listed_inj (fun m member n => told_member (keys m member) (values m member))
    opens_shownMember closes closes (List.cons.inj same).2]

theorem set_append_ne_map {items : List Value} {members : List (Value × Value)}
    (told : ∀ item ∈ items, ∀ m ∈ members, Told shown item m.1) {cs ds : List Char} :
    shown (set items) ++ cs ≠ shown (map members) ++ ds := by
  intro same
  rw [shown_map] at same
  cases items with
  | nil => cases (List.cons.inj same).1
  | cons item rest =>
    rw [shown_set, List.cons_append, List.cons_append, List.append_assoc,
      List.append_assoc] at same
    exact listed_ne_listed (told item (by simp)) (List.cons.inj same).2

theorem told_bool (b b' : Bool) : Told shown (bool b) (bool b') := by
  intro cs ds _ _ same
  cases b with
  | false =>
    cases b' with
    | false => rfl
    | true => cases (List.cons.inj same).1
  | true =>
    cases b' with
    | false => cases (List.cons.inj same).1
    | true => rfl

theorem told_decimal (d e : Decimal) : Told shown (decimal d) (decimal e) := by
  intro cs ds _ _ same
  simp only [shown, quoted_decimal, String.toList_append, List.append_assoc] at same
  rw [Decimal.text_inj (Text.quoted_append_inj (List.append_cancel_left same)).1]

/-- **Values are told apart by how they are shown**, whatever stands behind them. -/
theorem told (v w : Value) : Told shown v w := by
  induction v using induction_inner generalizing w with
  | step v ih =>
  intro cs ds stop stop' same
  have family := mark_eq same
  cases v with
  | null =>
    cases w with
    | null => rfl
    | _ => cases family
  | missing =>
    cases w with
    | missing => rfl
    | _ => cases family
  | bool b =>
    cases w with
    | bool b' => exact told_bool b b' cs ds stop stop' same
    | _ => cases family
  | int n =>
    have number : w.mark = .number := family.symm
    rw [← numeralOf_number number stop', ← same, numeralOf_int n stop]
  | double x =>
    have number : w.mark = .number := family.symm
    rw [← numeralOf_number number stop', ← same, numeralOf_double x stop]
  | decimal d =>
    cases w with
    | decimal e => exact told_decimal d e cs ds stop stop' same
    | _ => cases family
  | text s =>
    cases w with
    | text t => rw [(Text.quoted_append_inj same).1]
    | _ => cases family
  | bytes data =>
    cases w with
    | bytes data' => rw [(Text.quotedBytes_append_inj same).1]
    | _ => cases family
  | date | moment | clock => exact told_calendar rfl family.symm cs ds stop stop' same
  | list items =>
    cases w with
    | list items' => exact told_list ih cs ds stop stop' same
    | _ => cases family
  | tuple items =>
    cases w with
    | tuple items' => exact told_tuple ih cs ds stop stop' same
    | _ => cases family
  | set items =>
    cases w with
    | set items' => exact told_set ih cs ds stop stop' same
    | map members => exact (set_append_ne_map (fun item member m _ => ih item member m.1) same).elim
    | _ => cases family
  | frozenSet items =>
    cases w with
    | frozenSet items' => exact told_frozenSet ih cs ds stop stop' same
    | _ => cases family
  | map members =>
    cases w with
    | map members' =>
      exact told_map (fun m member => ih _ (key_mem_inner member))
        (fun m member => ih _ (value_mem_inner member)) cs ds stop stop' same
    | set items =>
      exact (set_append_ne_map (fun item _ m member =>
        (ih _ (key_mem_inner member) item).symm) same.symm).elim
    | _ => cases family

/-- **Different values are shown differently.** -/
theorem quoted_injective {v w : Value} (same : v.quoted = w.quoted) : v = w :=
  told v w [] [] nofun nofun (by rw [shown, shown, same])

end Value
end Eligibility
