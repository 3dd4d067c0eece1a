/-
# Emptying a store behind a client

An emptying removes keys of its space and no others, and counts what it removes; when it returns,
none of its commands has failed and the space is empty.  When a command fails, the emptying breaks
off with that fault.  What was removed by then stays removed, so an emptying that is tried again has
only the rest before it (`flush_clears`).

A key belongs to the space when it starts with its name and a colon.  The keys of a space with a
longer name do not, unless the name goes on with a colon (`owns_longer`).
-/

import Eligibility.Proofs.Store.Obeyed

namespace Eligibility
namespace Shared

open Client

variable {space : String} {c d : Client} {removed : List String}

/-- The client's key belongs to a space. -/
def Owns (space key : String) : Prop := (space ++ ":").toList <+: key.toList

theorem owns_longer (space longer key : String) :
    Owns space (space ++ longer ++ ":" ++ key) ↔ longer = "" ∨ ":".toList <+: longer.toList := by
  unfold Owns
  simp only [String.toList_append, List.append_assoc, List.prefix_append_right_inj]
  rw [← String.toList_eq_nil_iff]
  cases longer.toList with
  | nil => simp
  | cons first rest => simp

/-- Keys of a space were removed, each once, and nothing else was touched. -/
structure Cleared (space : String) (removed : List String) (c d : Client) : Prop where
  once : removed.Nodup
  owned : ∀ k ∈ removed, Owns space k ∧ c.has k
  others : Without removed c d

/-- Every key of a space that was there is among those removed. -/
def Whole (space : String) (removed : List String) (c : Client) : Prop :=
  ∀ k, Owns space k → c.has k → k ∈ removed

/-- What is not of the space is untouched. -/
theorem Cleared.untouched (cleared : Cleared space removed c d) {k : String}
    (foreign : ¬Owns space k) :
    d.values.get? k = c.values.get? k ∧ d.sets.get? k = c.sets.get? k := by
  have stays : k ∉ removed := fun member => foreign (cleared.owned k member).1
  rw [cleared.others.values, cleared.others.sets, if_neg stays, if_neg stays]
  exact ⟨rfl, rfl⟩

/-- When all keys of the space were removed, none is left. -/
theorem Cleared.empty (cleared : Cleared space removed c d) (whole : Whole space removed c)
    {k : String} (owns : Owns space k) : d.values.get? k = none ∧ d.sets.get? k = none := by
  rw [cleared.others.values, cleared.others.sets]
  split
  · exact ⟨rfl, rfl⟩
  · next stays =>
    have absent : ¬c.has k := fun there => stays (whole k owns there)
    simpa [has, Keyed.contains] using absent

theorem Cleared.trans {e f : Client} {rest : List String} (cleared : Cleared space removed c d)
    (values : e.values = d.values) (sets : e.sets = d.sets) (more : Cleared space rest e f) :
    Cleared space (removed ++ rest) c f := by
  have others : Without removed c e :=
    ⟨fun k => values ▸ cleared.others.values k, fun k => sets ▸ cleared.others.sets k⟩
  have later (k : String) (member : k ∈ rest) : k ∉ removed ∧ c.has k := by
    simpa [others.has] using (more.owned k member).2
  refine ⟨?_, fun k member => ?_, others.trans more.others⟩
  · exact List.Nodup.append cleared.once more.once fun k before after => (later k after).1 before
  · rcases List.mem_append.1 member with before | after
    · exact cleared.owned k before
    · exact ⟨(more.owned k after).1, (later k after).2⟩

/-- What an emptying comes to. -/
structure Empties (space : String) (c d : Client) (given : List Command) (removed : List String)
    (result : Except Failure Nat) : Prop where
  cleared : Cleared space removed c d
  commands : d.commands = c.commands ++ given
  ended : ∀ count, result = .ok count →
    (∀ word, ∀ next ∈ c.drawn given word, next = none) ∧ Whole space removed c ∧
      count = removed.length
  broken : ∀ failure, result = .error failure →
    ∃ word fault, some fault ∈ c.drawn given word ∧ failure = failureOf "flush_namespace" fault

theorem flush_comes {s : Shared} (there : s.client = some c) :
    (Store.flush s).result = (sweepAll s c).result.mapError (failureOf "flush_namespace") ∧
      (Store.flush s).state = { s with client := some (sweepAll s c).state } := by
  obtain ⟨result, state⟩ := operation_comes "flush_namespace" sweepAll there
  change (Shared.flush s).result = _ ∧ (Shared.flush s).state = _
  unfold Shared.flush
  rw [Action.bind_apply, result, state]
  cases (sweepAll s c).result <;> exact ⟨rfl, rfl⟩

theorem owns_iff {s : Shared} {k : String} :
    Owns s.space k ↔ (s.keyOf "").toList <+: k.toList := by
  rw [Owns, keyOf, String.append_empty]

theorem flush_empties {s : Shared} (there : s.client = some c) : ∃ d given removed,
    (Store.flush s).state = { s with client := some d } ∧
      Empties s.space c d given removed (Store.flush s).result := by
  obtain ⟨result, state⟩ := flush_comes there
  obtain ⟨given, gave⟩ := foretold_sweepAll s c
  obtain ⟨removed, first, others, all⟩ := sweepAll_cases s c
  have cleared : Cleared s.space removed c (sweepAll s c).state := by
    refine ⟨(nodup_keysFrom c _).sublist first.sublist, fun k member => ?_, others⟩
    obtain ⟨has, owns⟩ := mem_keysFrom.1 (first.subset member)
    exact ⟨owns_iff.2 owns, has⟩
  refine ⟨_, given, removed, state, cleared, gave.commands, fun count came => ?_,
    fun failure came => ?_⟩
  · rw [result] at came
    cases ended : (sweepAll s c).result with
    | error fault =>
      rw [ended] at came
      cases came
    | ok count' =>
      rw [ended] at came
      obtain rfl := Except.ok.inj came
      obtain ⟨whole, counted⟩ := all count' ended
      refine ⟨gave.ok count' ended, fun k owns has => ?_, counted⟩
      rw [whole]
      exact mem_keysFrom.2 ⟨has, owns_iff.1 owns⟩
  · rw [result] at came
    cases ended : (sweepAll s c).result with
    | ok count =>
      rw [ended] at came
      cases came
    | error fault =>
      rw [ended] at came
      obtain rfl := Except.error.inj came
      obtain ⟨word, drawn⟩ := gave.error fault ended
      exact ⟨word, fault, drawn, rfl⟩

/-- **An emptying removes exactly the space.**  It removes keys of the space and no others, however
far it comes; the keys of a longer name are others, unless the name goes on with a colon.  It
returns when none of its commands failed, and then it has removed every key of the space and tells
how many there were; it fails with the fault of a command.  The pages come to an end before the
fuel does.  An emptying that is tried again, with whatever faults, adds to what was removed, and
when it returns, the two have removed every key of the space, each once. -/
theorem flush_clears (space : String) (c : Client) : ∃ d given removed,
    (Store.flush (σ := Shared) { space, client := some c }).state = { space, client := some d } ∧
      Empties space c d given removed
        (Store.flush (σ := Shared) { space, client := some c }).result ∧
      (∀ k, ¬Owns space k →
        d.values.get? k = c.values.get? k ∧ d.sets.get? k = c.sets.get? k) ∧
      (∀ longer key, Owns space (space ++ longer ++ ":" ++ key) ↔
        longer = "" ∨ ":".toList <+: longer.toList) ∧
      (Faultless c → ∃ count,
        (Store.flush (σ := Shared) { space, client := some c }).result = .ok count) ∧
      (∀ fuel, c.keys.length < fuel →
        sweepAll { space, client := some c } c = sweep (space ++ ":") fuel 0 c) ∧
      ∀ e, e.values = d.values → e.sets = d.sets → ∃ f given' rest,
        (Store.flush (σ := Shared) { space, client := some e }).state =
            { space, client := some f } ∧
          Empties space e f given' rest
            (Store.flush (σ := Shared) { space, client := some e }).result ∧
          Cleared space (removed ++ rest) c f ∧
          ∀ count, (Store.flush (σ := Shared) { space, client := some e }).result = .ok count →
            Whole space (removed ++ rest) c := by
  obtain ⟨d, given, removed, state, empties⟩ :=
    flush_empties (s := { space, client := some c }) rfl
  refine ⟨d, given, removed, state, empties, fun k => empties.cleared.untouched,
    owns_longer space, fun faultless => ?_, fun fuel enough => ?_, fun e values sets => ?_⟩
  · obtain ⟨-, count, came⟩ := (foretold_sweepAll { space, client := some c }).succeeds c faultless
    refine ⟨count, ?_⟩
    rw [(flush_comes rfl).1, came]
    rfl
  · rw [sweepAll_eq _ c enough, keyOf, String.append_empty]
  · obtain ⟨f, given', rest, state', empties'⟩ :=
      flush_empties (s := { space, client := some e }) rfl
    refine ⟨f, given', rest, state', empties',
      empties.cleared.trans values sets empties'.cleared, fun count came k owns there => ?_⟩
    obtain ⟨-, whole, -⟩ := empties'.ended count came
    by_cases gone : k ∈ removed
    · exact List.mem_append_left _ gone
    · refine List.mem_append_right _ (whole k owns ?_)
      have same : e.has k = d.has k := by rw [has, has, values, sets]
      simpa [same, empties.cleared.others.has, gone] using there

/-- Pages of one key, the second of which is not removed at first. -/
example :
    let lost : ClientFault := ⟨"ConnectionError", "Connection lost.", true⟩
    let first := Store.flush (σ := Shared) { space := "e", client := some {
      values := .ofList [("e:a", "1"), ("e:b", "2"), ("ex:a", "3")],
      sets := .ofList [("e:tag:t", ["e:a", "e:b"])], page := 1,
      faults := .ofList [("delete", [none, some lost])] } }
    let again := Store.flush first.state
    first.result = .error (.storeFailed "Connection lost." (some "flush_namespace")) ∧
      first.state.client.map Client.keys = some ["ex:a", "e:b", "e:tag:t"] ∧
      again.result = .ok 2 ∧ again.state.client.map Client.keys = some ["ex:a"] := by
  cbv

end Shared
end Eligibility
