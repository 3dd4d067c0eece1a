/-
# What a client does with a command

A command that is refused changes nothing but the record of commands and of what is still to
happen (`Client.Still`); one that is obeyed does what it says.  Every exchange is a chain of
commands and may break off behind any of them, so each lemma here says what is there after every
one of its breaks.

A client that is never going to fail (`Client.Faultless`) obeys every exchange.
-/

import Mathlib.Data.Finset.Card
import Mathlib.Data.List.Infix
import Eligibility.Proofs.Step
import Eligibility.Store.Shared

namespace Eligibility
namespace Client

/-- Two clients hold the same. -/
structure Still (c d : Client) : Prop where
  values : d.values = c.values
  sets : d.sets = c.sets
  snapshot : d.snapshot = c.snapshot
  page : d.page = c.page

/-- The members of the set under a key. -/
def setAt (c : Client) (key : String) : List String := (c.sets.get? key).getD []

theorem Still.setAt {c d : Client} (still : Still c d) (key : String) :
    d.setAt key = c.setAt key := by
  unfold Client.setAt
  rw [still.sets]

variable {α : Type} {command : Command} {c : Client}

theorem still_give (command : Command) (c : Client) : Still c (give command c).state := by
  unfold give
  dsimp only
  split
  · exact ⟨rfl, rfl, rfl, rfl⟩
  · split <;> exact ⟨rfl, rfl, rfl, rfl⟩

theorem commands_give (command : Command) (c : Client) :
    (give command c).state.commands = c.commands ++ [command] := by
  unfold give
  dsimp only
  split
  · rfl
  · split <;> rfl

/-- A command is refused, or what follows goes on from a client that holds the same. -/
theorem give_cases (command : Command) (next : Exchange α) (c : Client) :
    ∃ d, Still c d ∧ d.commands = c.commands ++ [command] ∧
      ((∃ fault, (give command >>= fun _ => next) c = ⟨.error fault, d, []⟩) ∨
        (give command >>= fun _ => next) c =
          ⟨(next d).result, (next d).state, (give command c).events ++ (next d).events⟩) := by
  refine ⟨(give command c).state, still_give command c, commands_give command c, ?_⟩
  rw [Action.bind_apply]
  cases came : (give command c).result with
  | ok _ => exact .inr rfl
  | error fault =>
    refine .inl ⟨fault, ?_⟩
    unfold give at came ⊢
    dsimp only at came ⊢
    split at came
    · cases came
    · split at came
      · cases came
      · simp_all

/-! ### What is to happen at commands -/

/-- How many of some commands have a word. -/
def spent (given : List Command) (word : String) : Nat :=
  given.countP fun command => command.word = word

/-- What was to happen at some commands of a word. -/
def drawn (c : Client) (given : List Command) (word : String) : List (Option ClientFault) :=
  (c.pending word).take (spent given word)

/-- The commands that an exchange gave, and what was to happen at them. -/
structure Gave (given : List Command) (c : Client) (outcome : Outcome ClientFault Client α) :
    Prop where
  commands : outcome.state.commands = c.commands ++ given
  pending : ∀ word, outcome.state.pending word = (c.pending word).drop (spent given word)
  ok : ∀ a, outcome.result = .ok a → ∀ word, ∀ next ∈ c.drawn given word, next = none
  error : ∀ fault, outcome.result = .error fault → ∃ word, some fault ∈ c.drawn given word

/-- An exchange comes to its end when no fault was to happen at its commands, and breaks off with
such a fault when it does not. -/
def Foretold (x : Exchange α) : Prop := ∀ c, ∃ given, Gave given c (x c)

theorem foretold_of_silent {x : Exchange α}
    (silent : ∀ c, (x c).state.commands = c.commands ∧ (x c).state.faults = c.faults ∧
      ∃ a, (x c).result = .ok a) : Foretold x := by
  intro c
  obtain ⟨commands, faults, a, came⟩ := silent c
  refine ⟨[], by simpa using commands, fun word => ?_, fun _ _ word next member => ?_,
    fun fault no => ?_⟩
  · unfold Client.pending
    rw [faults]
    rfl
  · simp [drawn, spent] at member
  · rw [came] at no
    cases no

theorem foretold_pure (a : α) : Foretold (pure a : Exchange α) :=
  foretold_of_silent fun _ => ⟨rfl, rfl, a, rfl⟩

theorem foretold_ofPair {f : Client → α × Client}
    (silent : ∀ c, (f c).2.commands = c.commands ∧ (f c).2.faults = c.faults) :
    Foretold (Action.ofPair f : Exchange α) :=
  foretold_of_silent fun c => ⟨(silent c).1, (silent c).2, _, rfl⟩

theorem foretold_modify {f : Client → Client}
    (silent : ∀ c, (f c).commands = c.commands ∧ (f c).faults = c.faults) :
    Foretold (Action.modify f : Exchange Unit) :=
  foretold_of_silent fun c => ⟨(silent c).1, (silent c).2, _, rfl⟩

theorem spent_append (first later : List Command) (word : String) :
    spent (first ++ later) word = spent first word + spent later word := List.countP_append

theorem spent_one (command : Command) (word : String) :
    spent [command] word = if command.word = word then 1 else 0 := by
  simp [spent, List.countP_cons]

theorem Foretold.bind {β : Type} {x : Exchange α} {f : α → Exchange β} (first : Foretold x)
    (rest : ∀ a, Foretold (f a)) : Foretold (x >>= f) := by
  intro c
  obtain ⟨given, gave⟩ := first c
  rw [Action.bind_apply]
  cases came : (x c).result with
  | error fault =>
    refine ⟨given, gave.commands, gave.pending, fun _ no => (by cases no), fun fault' same => ?_⟩
    obtain rfl : fault = fault' := Except.error.inj same
    exact gave.error fault came
  | ok a =>
    obtain ⟨given', gave'⟩ := rest a (x c).state
    have both (word : String) :
        c.drawn (given ++ given') word = c.drawn given word ++ (x c).state.drawn given' word := by
      unfold drawn
      rw [spent_append, List.take_add, gave.pending]
    refine ⟨given ++ given', ?_, fun word => ?_, fun b came' word next member => ?_,
      fun fault refused => ?_⟩
    · rw [gave'.commands, gave.commands, List.append_assoc]
    · rw [gave'.pending, gave.pending, List.drop_drop, spent_append]
    · rw [both, List.mem_append] at member
      exact member.elim (gave.ok a came word next) (gave'.ok b came' word next)
    · obtain ⟨word, member⟩ := gave'.error fault refused
      exact ⟨word, by rw [both]; exact List.mem_append_right _ member⟩

theorem foretold_give (command : Command) : Foretold (give command) := by
  intro c
  have one := spent_one command
  refine ⟨[command], ?_⟩
  unfold give
  dsimp only
  split
  · next ended =>
    have ended : c.pending command.word = [] := ended
    refine ⟨rfl, fun word => ?_, fun _ _ word next member => ?_, fun _ no => by cases no⟩
    · change c.pending word = _
      rw [one]
      split
      · next same => rw [← same, ended, List.drop_nil]
      · rfl
    · rw [drawn, one] at member
      split at member
      · next same => simp [← same, ended] at member
      · simp at member
  · next next later there =>
    have there : c.pending command.word = next :: later := there
    have pending (word : String) : ((c.faults.insert command.word later).get? word).getD [] =
        (c.pending word).drop (spent [command] word) := by
      rw [Keyed.get?_insert, one]
      by_cases same : command.word = word
      · rw [if_pos same.symm, if_pos same, ← same, there]
        rfl
      · rw [if_neg (Ne.symm same), if_neg same]
        rfl
    have first : c.drawn [command] command.word = [next] := by
      rw [drawn, one, if_pos rfl, there]
      rfl
    split
    · refine ⟨rfl, pending, fun _ _ word next' member => ?_, fun _ no => by cases no⟩
      by_cases same : command.word = word
      · rw [← same, first] at member
        exact List.mem_singleton.1 member
      · simp [drawn, one, same] at member
    · next fault _ =>
      refine ⟨rfl, pending, fun _ no => (by cases no), fun fault' same => ⟨command.word, ?_⟩⟩
      obtain rfl : fault = fault' := Except.error.inj same
      rw [first]
      exact List.mem_singleton_self _

/-! ### Clients that never fail -/

/-- Nothing that is still to happen is a fault. -/
def Faultless (c : Client) : Prop := ∀ word, ∀ fault ∈ c.pending word, fault = none

/-- A client that never fails carries the exchange out and still never fails. -/
def Succeeds (x : Exchange α) : Prop :=
  ∀ c, Faultless c → Faultless (x c).state ∧ ∃ a, (x c).result = .ok a

theorem Foretold.succeeds {x : Exchange α} (foretold : Foretold x) : Succeeds x := by
  intro c faultless
  obtain ⟨given, gave⟩ := foretold c
  refine ⟨fun word fault member => ?_, ?_⟩
  · rw [gave.pending] at member
    exact faultless word fault (List.mem_of_mem_drop member)
  · cases came : (x c).result with
    | ok a => exact ⟨a, rfl⟩
    | error fault =>
      obtain ⟨word, member⟩ := gave.error fault came
      cases faultless word _ (List.mem_of_mem_take member)

theorem rest_dropAll (c : Client) (keys : List String) :
    (c.dropAll keys).2.commands = c.commands ∧ (c.dropAll keys).2.faults = c.faults ∧
      (c.dropAll keys).2.snapshot = c.snapshot ∧ (c.dropAll keys).2.page = c.page := by
  induction keys generalizing c with
  | nil => exact ⟨rfl, rfl, rfl, rfl⟩
  | cons key rest ih => exact ih (c.drop key)

theorem foretold_remove (keys : List String) : Foretold (remove keys) :=
  (foretold_give _).bind fun _ => foretold_ofPair fun c =>
    ⟨(rest_dropAll c keys).1, (rest_dropAll c keys).2.1⟩

theorem foretold_members (key : String) : Foretold (members key) :=
  (foretold_give _).bind fun _ => foretold_ofPair fun _ => ⟨rfl, rfl⟩

theorem foretold_scan (cursor : Nat) (start : String) (count : Nat) :
    Foretold (scan cursor start count) := by
  refine (foretold_give _).bind fun _ => foretold_ofPair fun c => ?_
  unfold beginScan
  split <;> exact ⟨rfl, rfl⟩

/-! ### The record of commands -/

/-- An exchange gives this command first. -/
def Begins (x : Exchange α) (command : Command) : Prop :=
  ∀ c, c.commands ++ [command] <+: (x c).state.commands

theorem begins_give (command : Command) : Begins (give command) command := fun c => by
  rw [commands_give]

theorem Begins.bind {β : Type} {x : Exchange α} {f : α → Exchange β} (first : Begins x command)
    (rest : ∀ a, Foretold (f a)) : Begins (x >>= f) command := by
  intro c
  rw [Action.bind_apply]
  cases (x c).result with
  | error fault => exact first c
  | ok a =>
    obtain ⟨given, gave⟩ := rest a (x c).state
    refine (first c).trans ?_
    rw [gave.commands]
    exact List.prefix_append _ _

/-- The time of a tag was renewed, and a key put under one more tag. -/
def renewed (tag key : String) : List Command → Bool
  | .expire tag' _ :: .addMember _ member :: _ => tag' == tag && member == key
  | _ => false

/-- The commands begin with a put of a value that was broken off before the time of its first tag
was renewed: the key was not put under one more tag. -/
def tornHere (key : String) : List Command → Bool
  | .keep key' _ _ :: .addMember tag member :: after =>
    key' == key && member == key && !renewed tag key after
  | _ => false

/-- A put of a value under a key was broken off behind the value, before the time of its first tag
was renewed. -/
def TornAt (key : String) (log : List Command) : Prop := ∃ tail ∈ log.tails, tornHere key tail

instance (key : String) (log : List Command) : Decidable (TornAt key log) :=
  inferInstanceAs (Decidable (∃ tail ∈ log.tails, _))

/-- An exchange may begin with the command. -/
def Leads : Command → Prop
  | .addMember .. => False
  | .expire .. => False
  | _ => True

theorem renewed_append {tag key : String} {after : List Command} (leads : Leads command)
    (more : List Command) (broken : renewed tag key after = false) :
    renewed tag key (after ++ command :: more) = false := by
  match after with
  | [] => cases command <;> first | rfl | exact absurd leads id
  | [first] => cases first <;> cases command <;> first | rfl | exact absurd leads id
  | first :: second :: rest => cases first <;> cases second <;> exact broken

theorem tornHere_append {key : String} {tail : List Command} (leads : Leads command)
    (more : List Command) (torn : tornHere key tail = true) :
    tornHere key (tail ++ command :: more) = true := by
  unfold tornHere at torn
  split at torn
  · next key' _ _ tag member after =>
    simp only [Bool.and_eq_true, Bool.not_eq_true'] at torn
    simp [tornHere, torn.1.1, torn.1.2, renewed_append leads more torn.2]
  · cases torn

/-- What is said later does not mend it. -/
theorem TornAt.extend {key : String} {log later : List Command} (torn : TornAt key log)
    (leads : Leads command) (longer : log ++ [command] <+: later) : TornAt key later := by
  obtain ⟨tail, member, torn⟩ := torn
  obtain ⟨before, rfl⟩ := (List.mem_tails _ _).1 member
  obtain ⟨more, rfl⟩ := longer
  refine ⟨tail ++ command :: more, (List.mem_tails _ _).2 ⟨before, by simp⟩, ?_⟩
  exact tornHere_append leads more torn

/-! ### Removing -/

/-- A client without some keys. -/
structure Without (keys : List String) (c d : Client) : Prop where
  values : ∀ k, d.values.get? k = if k ∈ keys then none else c.values.get? k
  sets : ∀ k, d.sets.get? k = if k ∈ keys then none else c.sets.get? k

theorem Still.without {c d : Client} (still : Still c d) : Without [] c d :=
  ⟨fun k => by simp [still.values], fun k => by simp [still.sets]⟩

theorem Without.trans {first later : List String} {b c d : Client} (h : Without first b c)
    (h' : Without later c d) : Without (first ++ later) b d := by
  refine ⟨fun k => ?_, fun k => ?_⟩
  · rw [h'.values, h.values]
    by_cases inFirst : k ∈ first <;> by_cases inLater : k ∈ later <;> simp [inFirst, inLater]
  · rw [h'.sets, h.sets]
    by_cases inFirst : k ∈ first <;> by_cases inLater : k ∈ later <;> simp [inFirst, inLater]

theorem Without.setAt {keys : List String} {c d : Client} (h : Without keys c d) (k : String) :
    d.setAt k = if k ∈ keys then [] else c.setAt k := by
  unfold Client.setAt
  rw [h.sets]
  split <;> rfl

theorem without_drop (c : Client) (key : String) : Without [key] c (c.drop key) :=
  ⟨fun k => by simp [drop, Keyed.get?_erase], fun k => by simp [drop, Keyed.get?_erase]⟩

theorem without_dropAll (c : Client) (keys : List String) : Without keys c (c.dropAll keys).2 := by
  induction keys generalizing c with
  | nil => exact ⟨fun k => by simp [dropAll], fun k => by simp [dropAll]⟩
  | cons key rest ih => exact (without_drop c key).trans (ih (c.drop key))

theorem begins_remove (keys : List String) : Begins (remove keys) (.remove keys) :=
  (begins_give _).bind fun _ => foretold_ofPair fun c =>
    ⟨(rest_dropAll c keys).1, (rest_dropAll c keys).2.1⟩

/-! ### Counting -/

theorem Still.has {c d : Client} (still : Still c d) (key : String) : d.has key = c.has key := by
  unfold Client.has
  rw [still.values, still.sets]

theorem has_drop (c : Client) (key k : String) :
    (c.drop key).has k = (decide (k ≠ key) && c.has k) := by
  unfold has drop Keyed.contains
  rw [Keyed.get?_erase, Keyed.get?_erase]
  by_cases same : k = key <;> simp [same]

/-- The keys that there are, of some. -/
def present (c : Client) (keys : List String) : Finset String :=
  keys.toFinset.filter fun key => c.has key

theorem Still.present {c d : Client} (still : Still c d) (keys : List String) :
    d.present keys = c.present keys := by
  unfold Client.present
  simp only [still.has]

/-- Keys that are removed are counted once each, and only those that there are. -/
theorem dropAll_fst (c : Client) (keys : List String) :
    (c.dropAll keys).1 = (c.present keys).card := by
  induction keys generalizing c with
  | nil => rfl
  | cons key rest ih =>
    have others : (c.drop key).present rest = (c.present (key :: rest)).erase key := by
      ext k
      simp only [present, Finset.mem_filter, Finset.mem_erase, List.mem_toFinset, has_drop,
        List.mem_cons]
      grind
    change (if c.has key then ((c.drop key).dropAll rest).1 + 1 else _) = _
    rw [ih, others]
    split
    · next there =>
      exact Finset.card_erase_add_one (by simp [present, there])
    · next absent =>
      rw [Finset.erase_eq_of_notMem (by simp [present, absent])]

/-- Keys are removed and counted, or nothing is. -/
theorem remove_cases (keys : List String) (c : Client) :
    (remove keys c).state.snapshot = c.snapshot ∧ (remove keys c).state.page = c.page ∧
      ((∃ fault, (remove keys c).result = .error fault) ∧ Without [] c (remove keys c).state ∨
        (remove keys c).result = .ok (c.present keys).card ∧
          Without keys c (remove keys c).state) := by
  obtain ⟨d, still, -, ⟨fault, refused⟩ | obeyed⟩ :=
    give_cases (.remove keys) (Action.ofPair (·.dropAll keys)) c
  · unfold remove
    rw [refused]
    exact ⟨still.snapshot, still.page, .inl ⟨⟨fault, rfl⟩, still.without⟩⟩
  · unfold remove
    rw [obeyed, ← still.present, ← dropAll_fst]
    have rest := rest_dropAll d keys
    refine ⟨rest.2.2.1.trans still.snapshot, rest.2.2.2.trans still.page, .inr ⟨rfl, ?_⟩⟩
    exact still.without.trans (without_dropAll d keys)

/-! ### Members -/

theorem mem_sorted {texts : List String} {k : String} : k ∈ sorted texts ↔ k ∈ texts :=
  List.mem_mergeSort

theorem mem_membersOf {k key : String} : k ∈ c.membersOf key ↔ k ∈ c.setAt key := mem_sorted

theorem members_cases (key : String) (c : Client) : ∃ d, Still c d ∧
    ((∃ fault, members key c = ⟨.error fault, d, []⟩) ∨
      ∃ events, members key c = ⟨.ok (c.membersOf key), d, events⟩) := by
  obtain ⟨d, still, -, refused | obeyed⟩ :=
    give_cases (.members key) (Action.ofPair fun c => (c.membersOf key, c)) c
  · exact ⟨d, still, .inl refused⟩
  · have same : d.membersOf key = c.membersOf key := by
      unfold membersOf
      rw [still.sets]
    rw [← same]
    exact ⟨d, still, .inr ⟨_, obeyed⟩⟩

theorem begins_members (key : String) : Begins (members key) (.members key) :=
  (begins_give _).bind fun _ => foretold_ofPair fun _ => ⟨rfl, rfl⟩

/-- What is found under a key is what is kept there. -/
theorem value_cases (key : String) (c : Client) :
    Still c (value key c).state ∧
      ∀ found, (value key c).result = .ok found → found = c.values.get? key := by
  unfold value
  obtain ⟨d, still, -, ⟨fault, refused⟩ | obeyed⟩ :=
    give_cases (.value key) (Action.ofPair fun c => (c.values.get? key, c)) c
  · rw [refused]
    exact ⟨still, fun _ no => by cases no⟩
  · rw [obeyed]
    refine ⟨still, fun found eq => ?_⟩
    rw [← Except.ok.inj eq]
    show d.values.get? key = _
    rw [still.values]

theorem holds_cases (key : String) (c : Client) :
    Still c (holds key c).state ∧
      ∀ found, (holds key c).result = .ok found → found = c.has key := by
  unfold holds
  obtain ⟨d, still, -, ⟨fault, refused⟩ | obeyed⟩ :=
    give_cases (.holds key) (Action.ofPair fun c => (c.has key, c)) c
  · rw [refused]
    exact ⟨still, fun _ no => by cases no⟩
  · rw [obeyed]
    refine ⟨still, fun found eq => ?_⟩
    rw [← Except.ok.inj eq]
    show d.has key = _
    unfold has
    rw [still.values, still.sets]

/-! ### Putting -/

theorem get?_addTo (c : Client) (key member k : String) :
    (c.addTo key member).sets.get? k = none ↔ c.sets.get? k = none ∧ k ≠ key := by
  unfold addTo
  rw [Keyed.get?_insert]
  by_cases same : k = key <;> simp [same]

theorem mem_setAt_addTo (c : Client) (key member k other : String) :
    k ∈ (c.addTo key member).setAt other ↔ k ∈ c.setAt other ∨ other = key ∧ k = member := by
  unfold addTo setAt
  rw [Keyed.get?_insert]
  by_cases same : other = key
  · subst same
    simp only [if_true, Option.getD_some, true_and]
    split
    · next there =>
      refine ⟨.inl, fun either => either.elim id ?_⟩
      rintro rfl
      simpa using there
    · simp
  · simp [same]

theorem addMember_cases (key member : String) (c : Client) :
    ∃ d, Still c d ∧ d.commands = c.commands ++ [.addMember key member] ∧
      ((∃ fault, addMember key member c = ⟨.error fault, d, []⟩) ∨
        ∃ events, addMember key member c = ⟨.ok (), d.addTo key member, events⟩) := by
  obtain ⟨d, still, log, refused | obeyed⟩ :=
    give_cases (.addMember key member) (Action.modify (·.addTo key member)) c
  · exact ⟨d, still, log, .inl refused⟩
  · exact ⟨d, still, log, .inr ⟨_, obeyed⟩⟩

theorem foretold_addMember (key member : String) : Foretold (addMember key member) :=
  (foretold_give _).bind fun _ => foretold_modify fun _ => ⟨rfl, rfl⟩

theorem keep_cases (key : String) (lifetime : Int) (value : String) (c : Client) :
    ∃ d, Still c d ∧ d.commands = c.commands ++ [.keep key lifetime value] ∧
      ((∃ fault, keep key lifetime value c = ⟨.error fault, d, []⟩) ∨
        ∃ events, keep key lifetime value c =
          ⟨.ok (), { d with values := d.values.insert key value }, events⟩) := by
  obtain ⟨d, still, log, refused | obeyed⟩ := give_cases (.keep key lifetime value)
    (Action.modify fun c => { c with values := c.values.insert key value }) c
  · exact ⟨d, still, log, .inl refused⟩
  · exact ⟨d, still, log, .inr ⟨_, obeyed⟩⟩

theorem begins_keep (key : String) (lifetime : Int) (value : String) :
    Begins (keep key lifetime value) (.keep key lifetime value) :=
  (begins_give _).bind fun _ => foretold_modify fun _ => ⟨rfl, rfl⟩

theorem foretold_keep (key : String) (lifetime : Int) (value : String) :
    Foretold (keep key lifetime value) :=
  (foretold_give _).bind fun _ => foretold_modify fun _ => ⟨rfl, rfl⟩

end Client

end Eligibility
