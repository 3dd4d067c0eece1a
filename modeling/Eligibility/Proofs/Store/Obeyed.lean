/-
# Exchanges that come to their end

What a client that obeys all commands of an exchange holds afterwards, and what it has counted.
Behind a client that never fails, every operation comes to its end.
-/

import Eligibility.Proofs.Store.Shared

namespace Eligibility

namespace Client

variable {c : Client} {key value : String} {lifetime : Int}

theorem keep_of_ok (came : (keep key lifetime value c).result = .ok ()) :
    (keep key lifetime value c).state.values = c.values.insert key value ∧
      (keep key lifetime value c).state.sets = c.sets := by
  obtain ⟨d, still, -, ⟨fault, refused⟩ | ⟨events, obeyed⟩⟩ := keep_cases key lifetime value c
  · rw [refused] at came
    cases came
  · rw [obeyed]
    exact ⟨by rw [still.values], still.sets⟩

end Client

namespace Shared

open Client

variable {s : Shared} {c d : Client} {key value tag space : String} {lifetime : Int}
  {tags : List String}

/-- When it comes to its end, a key stands under all of its tags. -/
theorem tagAll_of_ok (came : (tagAll s key lifetime tags c).result = .ok ()) :
    Tagged (tags.map s.tagKeyOf) (s.keyOf key) c (tagAll s key lifetime tags c).state := by
  induction tags generalizing c with
  | nil => exact .of_still _ ⟨rfl, rfl, rfl, rfl⟩
  | cons tag rest ih =>
    obtain ⟨_, added, more, state⟩ := Action.ok_of_bind came
    obtain ⟨_, renewed, rest', state'⟩ := Action.ok_of_bind more
    rw [tagAll, state, state']
    have one : Tagged [s.tagKeyOf tag] (s.keyOf key) c
        (addMember (s.tagKeyOf tag) (s.keyOf key) c).state := by
      obtain ⟨d, still, -, ⟨fault, refused⟩ | ⟨events, obeyed⟩⟩ :=
        addMember_cases (s.tagKeyOf tag) (s.keyOf key) c
      · rw [refused] at added
        cases added
      · rw [obeyed]
        exact (Tagged.of_still (s.keyOf key) still).trans (tagged_addTo d _ _)
    exact (one.trans (.of_still _ (still_give _ _))).trans (ih rest')

/-- When it comes to its end, a put has kept the value and put the key under all of its tags. -/
theorem putting_of_ok (came : (putting s key value lifetime tags c).result = .ok ()) :
    ∃ b, b.values = c.values.insert (s.keyOf key) value ∧ b.sets = c.sets ∧
      Tagged (tags.map s.tagKeyOf) (s.keyOf key) b (putting s key value lifetime tags c).state := by
  obtain ⟨_, kept, more, state⟩ := Action.ok_of_bind came
  obtain ⟨values, sets⟩ := keep_of_ok kept
  refine ⟨_, values, sets, ?_⟩
  rw [putting, state]
  exact tagAll_of_ok more

/-- When it comes to its end, dropping a tag has removed its members and its set, and counted the
members that there were. -/
theorem dropMembers_of_ok {count : Nat} (came : (dropMembers tag s c).result = .ok count) :
    count = (c.present (c.membersOf (s.tagKeyOf tag))).card ∧
      Without (c.membersOf (s.tagKeyOf tag) ++ [s.tagKeyOf tag]) c
        (dropMembers tag s c).state := by
  obtain ⟨keys, gone, -, all⟩ := dropMembers_cases tag s c
  rw [all ⟨count, came⟩] at gone
  refine ⟨?_, gone⟩
  obtain ⟨found, read, more, -⟩ := Action.ok_of_bind came
  obtain ⟨count', removed, rest, -⟩ := Action.ok_of_bind more
  obtain ⟨_, _, ended, -⟩ := Action.ok_of_bind rest
  obtain rfl : count' = count := Except.ok.inj ended
  obtain ⟨d, still, ⟨fault, refused⟩ | ⟨events, obeyed⟩⟩ := members_cases (s.tagKeyOf tag) c
  · rw [refused] at read
    cases read
  · rw [obeyed] at read removed
    obtain rfl := Except.ok.inj read
    rw [← still.present]
    obtain ⟨-, -, ⟨⟨fault, refused⟩, -⟩ | ⟨counted, -⟩⟩ :=
      removeAny_cases (c.membersOf (s.tagKeyOf tag)) d
    · cases removed.symm.trans refused
    · exact Except.ok.inj (removed.symm.trans counted)

/-- An operation of a client that never fails. -/
theorem operation_obeyed {α : Type} {x : Shared → Exchange α} (name : String)
    (there : s.client = some c) (faultless : Faultless c) (succeeds : Succeeds (x s)) :
    Faultless (x s c).state ∧ ∃ a, (x s c).result = .ok a ∧ (operation name x s).result = .ok a ∧
      (operation name x s).state = { s with client := some (x s c).state } := by
  obtain ⟨kept, a, came⟩ := succeeds c faultless
  have result := operation_of_ok name there came
  obtain ⟨c', there', -, state⟩ := operation_eq_ok result
  obtain rfl : c = c' := Option.some.inj (there.symm.trans there')
  exact ⟨kept, a, came, result, state⟩

section Operations

variable (there : s.client = some c) (faultless : Faultless c)

include there faultless

theorem get_obeyed (key : String) : ∃ d, Still c d ∧ Faultless d ∧
    (Store.get key s).result = .ok (c.values.get? (s.keyOf key)) ∧
    (Store.get key s).state = { s with client := some d } := by
  have succeeds : Succeeds (Client.value (s.keyOf key)) :=
    ((foretold_give _).bind fun _ => foretold_ofPair fun _ => ⟨rfl, rfl⟩).succeeds
  obtain ⟨kept, found, came, result, state⟩ := operation_obeyed
    (x := fun s => Client.value (s.keyOf key)) "get" there faultless succeeds
  obtain ⟨still, read⟩ := value_cases (s.keyOf key) c
  refine ⟨_, still, kept, ?_⟩
  rw [← read found came]
  change (Shared.get key s).result = _ ∧ (Shared.get key s).state = _
  unfold Shared.get
  rw [Action.bind_apply, result, state]
  cases found <;> exact ⟨rfl, rfl⟩

theorem put_obeyed (key value : String) (lifetime : Int) (tags : List String) :
    ∃ b d, b.values = c.values.insert (s.keyOf key) value ∧ b.sets = c.sets ∧
      Tagged (tags.map s.tagKeyOf) (s.keyOf key) b d ∧ Faultless d ∧
      (Store.put key value lifetime tags s).result = .ok () ∧
      (Store.put key value lifetime tags s).state = { s with client := some d } := by
  obtain ⟨kept, _, came, result, state⟩ := operation_obeyed
    (x := fun s => putting s key value lifetime tags) "put" there faultless
    (foretold_putting s key value lifetime tags).succeeds
  obtain ⟨b, values, sets, tagged⟩ := putting_of_ok came
  refine ⟨b, _, values, sets, tagged, kept, ?_⟩
  change (((operation "put" fun s => putting s key value lifetime tags) >>=
      fun _ => Action.note .clientStored) s).result = _ ∧
    (((operation "put" fun s => putting s key value lifetime tags) >>=
      fun _ => Action.note .clientStored) s).state = _
  rw [Action.bind_apply, result, state]
  exact ⟨rfl, rfl⟩

theorem delete_obeyed (key : String) : ∃ d, Without [s.keyOf key] c d ∧ Faultless d ∧
    (Store.delete key s).result = .ok (c.has (s.keyOf key)) ∧
    (Store.delete key s).state = { s with client := some d } := by
  obtain ⟨kept, count, came, result, state⟩ := operation_obeyed
    (x := fun s => Client.remove [s.keyOf key]) "delete" there faultless (foretold_remove _).succeeds
  obtain ⟨-, -, ⟨⟨fault, refused⟩, -⟩ | ⟨removed, gone⟩⟩ := remove_cases [s.keyOf key] c
  · cases came.symm.trans refused
  obtain rfl := Except.ok.inj (came.symm.trans removed)
  have counted : decide ((c.present [s.keyOf key]).card > 0) = c.has (s.keyOf key) := by
    cases has : c.has (s.keyOf key) <;> simp [present, Finset.filter_singleton, has]
  refine ⟨_, gone, kept, ?_⟩
  rw [← counted]
  change (((operation "delete" fun s => Client.remove [s.keyOf key]) >>=
      fun count => pure (decide (count > 0))) s).result = _ ∧
    (((operation "delete" fun s => Client.remove [s.keyOf key]) >>=
      fun count => pure (decide (count > 0))) s).state = _
  rw [Action.bind_apply, result, state]
  exact ⟨rfl, rfl⟩

end Operations

end Shared
end Eligibility
