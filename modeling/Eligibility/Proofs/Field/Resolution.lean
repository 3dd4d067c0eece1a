/-
# Where paths lead

A value is reached from a map by accesses, each the key of a member or a place among items
(`Field.Leads`).  Written with points between them, the accesses are a path, and the path resolves
to the value that they lead to, unless it is itself a key of the map (`Field.resolve_reaches`).

Read the other way, a path has one list of segments (`Field.parts_iff`).  What a segment accesses
depends on the value that it comes upon: in a map the key that it is, and in a list or a tuple the
place that it writes, if it writes an integer.

| the segments | what the path resolves to |
| --- | --- |
| are followed up to the last (`Field.Follows`) | the value that they lead to |
| get lost: no such key, no integer, a place beyond the items, nothing to access (`Field.Lost`) | `missing` |

There is no third case (`Field.follows_or_lost`).  A key that is spelled like the whole path comes
before all that, and what is no map has no fields.
-/

import Eligibility.Field
import Eligibility.Proofs.Text.Integer
import Eligibility.Proofs.Value.Members

namespace Eligibility
namespace Field

open Value (Holds Lacks)

/-! ### Segments -/

/-- The segments of a path: there is one at least, none has a point, and with points between them
they are the path. -/
structure Parts (path : String) (segments : List String) : Prop where
  nonempty : segments ≠ []
  pointless : ∀ segment ∈ segments, '.' ∉ segment.toList
  joined : ".".intercalate segments = path

variable {path : String} {segments : List String}

theorem segmentsOf_eq (cs : List Char) : segmentsOf cs = cs.splitOn '.' := by
  induction cs with
  | nil => rfl
  | cons c rest ih =>
    rw [segmentsOf, List.splitOn_cons_eq_if_modifyHead, ih]
    by_cases point : c = '.'
    · rw [if_pos point, if_pos (beq_iff_eq.2 point)]
    · rw [if_neg point, if_neg (by simpa using point)]
      cases split : rest.splitOn '.' with
      | nil => exact absurd split (List.splitOn_ne_nil _ _)
      | cons first others => rfl

theorem not_mem_of_mem_segmentsOf {cs : List Char} :
    ∀ segment ∈ segmentsOf cs, '.' ∉ segment := by
  induction cs with
  | nil => simp [segmentsOf]
  | cons c rest ih =>
    rw [segmentsOf]
    split
    · simpa using ih
    · next other =>
      split
      · next first others split =>
        rw [split] at ih
        simp only [List.forall_mem_cons] at ih ⊢
        exact ⟨by simp [Ne.symm other, ih.1], ih.2⟩
      · simp [Ne.symm other]

/-- **A path has exactly one list of segments.** -/
theorem parts_iff : Parts path segments ↔ segments = Field.segments path := by
  have back (texts : List String) : (texts.map String.toList).map String.ofList = texts := by
    simp [Function.comp_def]
  have forth (texts : List (List Char)) : (texts.map String.ofList).map String.toList = texts := by
    simp [Function.comp_def]
  constructor
  · rintro ⟨nonempty, pointless, rfl⟩
    have split : (['.'].intercalate (segments.map String.toList)).splitOn '.'
        = segments.map String.toList :=
      List.splitOn_intercalate '.' (by simpa using pointless) (by simpa using nonempty)
    rw [Field.segments, segmentsOf_eq, String.toList_intercalate]
    exact (back segments).symm.trans (congrArg _ split.symm)
  · rintro rfl
    refine ⟨?_, ?_, String.toList_inj.1 ?_⟩
    · rw [Field.segments, segmentsOf_eq]
      simp
    · rw [Field.segments]
      simpa using not_mem_of_mem_segmentsOf
    · rw [String.toList_intercalate, Field.segments, forth, segmentsOf_eq]
      exact List.intercalate_splitOn '.'

/-! ### Accesses -/

/-- A way into a value: the key of a member, or a place among items, which is counted from the end
when it is negative. -/
inductive Access where
  | key (name : String)
  | place (index : Int)

/-- How an access is written in a path. -/
def Access.text : Access → String
  | key name => name
  | place index => toString index

/-- A value stands at a place among items: the place is its index, or that less their number. -/
def Stands (items : List Value) (place : Int) (v : Value) : Prop :=
  ∃ index : Nat, items[index]? = some v ∧ (place = index ∨ place = index - items.length)

/-- A place is not among items, whether it is counted from their beginning or from their end. -/
def Beyond (items : List Value) (place : Int) : Prop :=
  place < -items.length ∨ items.length ≤ place

/-- An access to a value gives another. -/
inductive Access.Gives : Access → Value → Value → Prop
  | member {members : List (Value × Value)} {name : String} {w : Value}
    (held : Holds members name w) : Gives (.key name) (.map members) w
  | item {v w : Value} {items : List Value} {place : Int} (sequence : v.sequence? = some items)
    (stands : Stands items place w) : Gives (.place place) v w

/-- Accesses lead from a value to another, one after another. -/
inductive Leads : List Access → Value → Value → Prop
  | here (v : Value) : Leads [] v v
  | on {access : Access} {rest : List Access} {v w u : Value} (gives : access.Gives v w)
    (leads : Leads rest w u) : Leads (access :: rest) v u

/-- The path that accesses are written as. -/
def written (accesses : List Access) : String := ".".intercalate (accesses.map Access.text)

/-- A segment is an access to a value: to a map by the key that it is, and to a list or a tuple by
the place that it writes. -/
inductive Reads (segment : String) : Value → Access → Prop
  | key (members : List (Value × Value)) : Reads segment (.map members) (.key segment)
  | place {v : Value} {items : List Value} {place : Int} (sequence : v.sequence? = some items)
    (writes : Text.integer? segment = some place) : Reads segment v (.place place)

/-- Segments are followed from a value to another. -/
inductive Follows : List String → Value → Value → Prop
  | here (v : Value) : Follows [] v v
  | on {segment : String} {rest : List String} {access : Access} {v w u : Value}
    (reads : Reads segment v access) (gives : access.Gives v w) (follows : Follows rest w u) :
    Follows (segment :: rest) v u

/-- A segment is stuck at a value: there is no such key, it writes no integer or a place beyond
the items, or the value is neither a map nor a list nor a tuple. -/
inductive Stuck (segment : String) : Value → Prop
  | noKey {members : List (Value × Value)} (lacks : Lacks members segment) :
    Stuck segment (.map members)
  | noInteger {v : Value} {items : List Value} (sequence : v.sequence? = some items)
    (none : Text.integer? segment = none) : Stuck segment v
  | beyond {v : Value} {items : List Value} {place : Int} (sequence : v.sequence? = some items)
    (writes : Text.integer? segment = some place) (beyond : Beyond items place) : Stuck segment v
  | noAccess {v : Value} (noMap : v.members? = none) (noSequence : v.sequence? = none) :
    Stuck segment v

/-- Segments get lost on their way from a value. -/
inductive Lost : List String → Value → Prop
  | now {segment : String} {rest : List String} {v : Value} (stuck : Stuck segment v) :
    Lost (segment :: rest) v
  | later {segment : String} {rest : List String} {access : Access} {v w : Value}
    (reads : Reads segment v access) (gives : access.Gives v w) (lost : Lost rest w) :
    Lost (segment :: rest) v

variable {v w : Value} {items : List Value} {members : List (Value × Value)} {place : Int}
  {segment : String} {access : Access}

/-! ### Items at places -/

theorem item?_eq_some_iff : item? items place = some v ↔ Stands items place v := by
  unfold item?
  constructor
  · intro found
    split at found
    · exact ⟨place.toNat, found, .inl (by omega)⟩
    · split at found
      · exact ⟨items.length - (-place).toNat, found, .inr (by omega)⟩
      · cases found
  · rintro ⟨index, found, counted⟩
    have inside := (List.getElem?_eq_some_iff.1 found).1
    obtain rfl | rfl := counted
    · rw [if_pos (by omega), Int.toNat_natCast, found]
    · have same : items.length - (-((index : Int) - items.length)).toNat = index := by omega
      rw [if_neg (by omega), if_pos (by omega), same, found]

theorem item?_eq_none_iff : item? items place = none ↔ Beyond items place := by
  unfold item? Beyond
  split
  · rw [List.getElem?_eq_none_iff]
    omega
  · split
    · rw [List.getElem?_eq_none_iff]
      omega
    · exact iff_of_true rfl (by omega)

/-! ### One segment -/

theorem step?_of_sequence (sequence : v.sequence? = some items) (segment : String) :
    step? v segment = Text.integer? segment >>= item? items := by
  cases v with
  | list items' | tuple items' =>
    obtain rfl := Option.some.inj sequence
    rfl
  | _ => cases sequence

/-- A step along a path is taken by the access that its segment is. -/
theorem step?_of_gives (reads : Reads segment v access) (gives : access.Gives v w) :
    step? v segment = some w := by
  cases reads with
  | key members =>
    obtain ⟨held⟩ := gives
    exact Value.find?_eq_some_iff.2 held
  | place sequence writes =>
    obtain - | ⟨sequence', stands⟩ := gives
    obtain rfl := Option.some.inj (sequence.symm.trans sequence')
    rw [step?_of_sequence sequence, writes]
    exact item?_eq_some_iff.2 stands

theorem step?_of_stuck (stuck : Stuck segment v) : step? v segment = none := by
  cases stuck with
  | noKey lacks => exact Value.find?_eq_none_iff.2 lacks
  | noInteger sequence none =>
    rw [step?_of_sequence sequence, none]
    rfl
  | beyond sequence writes beyond =>
    rw [step?_of_sequence sequence, writes]
    exact item?_eq_none_iff.2 beyond
  | noAccess noMap noSequence =>
    cases v with
    | map members => cases noMap
    | list items | tuple items => cases noSequence
    | _ => rfl

/-- **A segment is an access that gives something, or it is stuck.** -/
theorem gives_or_stuck (segment : String) (v : Value) :
    (∃ access w, Reads segment v access ∧ access.Gives v w) ∨ Stuck segment v := by
  cases sequence : v.sequence? with
  | some items =>
    cases writes : Text.integer? segment with
    | none => exact .inr (.noInteger sequence writes)
    | some place =>
      cases found : item? items place with
      | none => exact .inr (.beyond sequence writes (item?_eq_none_iff.1 found))
      | some w =>
        exact .inl ⟨.place place, w, .place sequence writes,
          .item sequence (item?_eq_some_iff.1 found)⟩
  | none =>
    cases v with
    | map members =>
      cases found : Value.find? members segment with
      | none => exact .inr (.noKey (Value.find?_eq_none_iff.1 found))
      | some w => exact .inl ⟨.key segment, w, .key members, .member (Value.find?_eq_some_iff.1 found)⟩
    | list items | tuple items => cases sequence
    | _ => exact .inr (.noAccess rfl rfl)

/-! ### All segments -/

theorem walk?_of_follows (follows : Follows segments v w) : walk? v segments = some w := by
  induction follows with
  | here v => rfl
  | on reads gives _ ih =>
    rw [walk?, step?_of_gives reads gives]
    exact ih

theorem walk?_of_lost (lost : Lost segments v) : walk? v segments = none := by
  induction lost with
  | now stuck =>
    rw [walk?, step?_of_stuck stuck]
    rfl
  | later reads gives _ ih =>
    rw [walk?, step?_of_gives reads gives]
    exact ih

/-- **Segments are followed to their end, or they get lost.** -/
theorem follows_or_lost (segments : List String) (v : Value) :
    (∃ w, Follows segments v w) ∨ Lost segments v := by
  induction segments generalizing v with
  | nil => exact .inl ⟨v, .here v⟩
  | cons segment rest ih =>
    obtain ⟨access, w, reads, gives⟩ | stuck := gives_or_stuck segment v
    · obtain ⟨u, follows⟩ | lost := ih w
      · exact .inl ⟨u, .on reads gives follows⟩
      · exact .inr (.later reads gives lost)
    · exact .inr (.now stuck)

/-! ### Accesses as they are written -/

/-- An access that gives something is read back from how it is written. -/
theorem reads_text (gives : access.Gives v w) : Reads access.text v access := by
  cases gives with
  | member held => exact .key _
  | item sequence stands => exact .place sequence (Text.integer?_toString _)

theorem follows_of_leads {accesses : List Access} (leads : Leads accesses v w) :
    Follows (accesses.map Access.text) v w := by
  induction leads with
  | here v => exact .here v
  | on gives _ ih => exact .on (reads_text gives) gives ih

theorem not_mem_toString (place : Int) : '.' ∉ (toString place).toList := by
  intro member
  cases place with
  | ofNat n =>
    rw [Text.toList_ofNat] at member
    cases Text.isDigit_of_mem_toDigits member
  | negSucc n =>
    rw [Text.toList_negSucc] at member
    obtain minus | digit := List.mem_cons.1 member
    · cases minus
    · cases Text.isDigit_of_mem_toDigits digit

theorem parts_written {accesses : List Access} (nonempty : written accesses ≠ "")
    (pointless : ∀ name, .key name ∈ accesses → '.' ∉ name.toList) :
    Parts (written accesses) (accesses.map Access.text) := by
  refine ⟨?_, ?_, rfl⟩
  · intro none
    rw [written, none] at nonempty
    exact nonempty rfl
  · intro segment member
    obtain ⟨access, inside, rfl⟩ := List.mem_map.1 member
    cases access with
    | key name => exact pointless name inside
    | place index => exact not_mem_toString index

/-! ### Paths -/

theorem resolve_of_holds (nonempty : path ≠ "") (holds : Holds members path v) :
    resolve (.map members) path = v := by
  have found : Value.find? members path = some v := Value.find?_eq_some_iff.2 holds
  rw [resolve, if_neg (by simpa using nonempty), found]

theorem resolve_of_lacks (nonempty : path ≠ "") (lacks : Lacks members path)
    (parts : Parts path segments) :
    resolve (.map members) path = (walk? (.map members) segments).getD .missing := by
  have absent : Value.find? members path = none := Value.find?_eq_none_iff.2 lacks
  rw [resolve, if_neg (by simpa using nonempty), absent, parts_iff.1 parts]

/-- **A path resolves to the value that it leads to, and to nothing else.**  Whatever accesses lead
to is what the path that they are written as resolves to, as long as no key among them has a point
in it, and the path, if it has one, is not itself a key.  Conversely a path that is a key resolves to
the value there; any other resolves to the value that its segments are followed to, or, when they
get lost, to `missing`.  In what is no map every path does. -/
theorem resolve_reaches (members : List (Value × Value)) {path : String} (nonempty : path ≠ "") :
    (∀ accesses v, path = written accesses →
      (∀ name, .key name ∈ accesses → '.' ∉ name.toList) →
      ('.' ∈ path.toList → Lacks members path) → Leads accesses (.map members) v →
        resolve (.map members) path = v) ∧
    (∀ v, Holds members path v → resolve (.map members) path = v) ∧
    (Lacks members path → ∃ segments, (∀ others, Parts path others ↔ others = segments) ∧
      ((∃ v, Follows segments (.map members) v) ∨ Lost segments (.map members)) ∧
      (∀ v, Follows segments (.map members) v → resolve (.map members) path = v) ∧
      (Lost segments (.map members) → resolve (.map members) path = .missing)) ∧
    ∀ subject, subject.members? = none → resolve subject path = .missing := by
  refine ⟨?led, fun v => resolve_of_holds nonempty, ?read,
    fun subject noMap => resolve_of_not_map noMap path⟩
  case led =>
    rintro accesses v rfl pointless lacks leads
    have parts := parts_written nonempty pointless
    by_cases point : '.' ∈ (written accesses).toList
    · rw [resolve_of_lacks nonempty (lacks point) parts, walk?_of_follows (follows_of_leads leads)]
      rfl
    · -- Without a point there is one access only, and it is the key that the path is.
      have lone : Parts (written accesses) [written accesses] :=
        ⟨by simp, by simpa using point, String.intercalate_singleton⟩
      have same := (parts_iff.1 parts).trans (parts_iff.1 lone).symm
      obtain ⟨access, rfl, text⟩ := List.map_eq_singleton_iff.1 same
      obtain - | ⟨gives, leads⟩ := leads
      cases leads
      cases gives with
      | member held =>
        rw [← text] at nonempty ⊢
        exact resolve_of_holds nonempty held
      | item sequence => cases sequence
  case read =>
    intro lacks
    have resolves := resolve_of_lacks nonempty lacks (parts_iff.2 rfl)
    refine ⟨Field.segments path, fun others => parts_iff, follows_or_lost _ _,
      fun v follows => ?_, fun lost => ?_⟩
    · rw [resolves, walk?_of_follows follows]
      rfl
    · rw [resolves, walk?_of_lost lost]
      rfl

/-- An account with a balance. -/
def account (balance : Int) : Value := .map [(.text "balance", .int balance)]

/-- Two accounts, and a key with a point in it. -/
def holder : List (Value × Value) :=
  [(.text "accounts", .list [account 100, account 250]), (.text "flat.key", .text "literal")]

/-- The balance of the last account is reached, a third account is not, and a key with a point in it
is found as a whole. -/
theorem resolve_reaches_accounts :
    (written [.key "accounts", .place (-1), .key "balance"] ≠ "" ∧
      resolve (.map holder) (written [.key "accounts", .place (-1), .key "balance"]) = .int 250) ∧
    ("accounts.2.balance" ≠ "" ∧ resolve (.map holder) "accounts.2.balance" = .missing) ∧
    "flat.key" ≠ "" ∧ resolve (.map holder) "flat.key" = .text "literal" := by
  have lacks {path : String} (first : "accounts" ≠ path) (second : "flat.key" ≠ path) :
      Lacks holder path := by
    intro m member
    simp only [holder, List.mem_cons, List.not_mem_nil, or_false] at member
    obtain rfl | rfl := member
    · simpa using first
    · simpa using second
  have accounts : Holds holder "accounts" (.list [account 100, account 250]) :=
    ⟨[], _, rfl, nofun⟩
  refine ⟨⟨by decide, ?reached⟩, ⟨by decide, ?lost⟩, by decide, ?whole⟩
  case reached =>
    have leads : Leads [.key "accounts", .place (-1), .key "balance"] (.map holder) (.int 250) :=
      .on (.member accounts) (.on (.item rfl ⟨1, rfl, .inr (by decide)⟩)
        (.on (.member ⟨[], [], rfl, nofun⟩) (.here _)))
    exact (resolve_reaches holder (by decide)).1 _ _ rfl (by simp) (fun _ => lacks (by decide)
      (by decide)) leads
  case lost =>
    have spelled : "accounts.2.balance" ≠ "" := by decide
    obtain ⟨-, -, read, -⟩ := resolve_reaches holder spelled
    obtain ⟨segments, only, -, -, lost⟩ := read (lacks (by decide) (by decide))
    obtain rfl := (only ["accounts", "2", "balance"]).1 ⟨by decide, by decide, by decide⟩
    have two : Text.integer? "2" = some 2 := by decide +kernel
    exact lost (.later (.key _) (.member accounts) (.now (.beyond rfl two (.inr (by decide)))))
  case whole =>
    have spelled : "flat.key" ≠ "" := by decide
    obtain ⟨-, held, -, -⟩ := resolve_reaches holder spelled
    exact held _ ⟨[_], [], rfl, by simp⟩

end Field
end Eligibility
