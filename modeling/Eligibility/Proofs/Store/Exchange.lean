/-
# Exchanges of a store behind a client

A put keeps the value first and then puts the key under one tag after another, so what is there
when it breaks off depends on how far it came (`putting_cases`).  Dropping a tag removes its
members and then the tag itself (`dropMembers_cases`).
-/

import Eligibility.Proofs.Store.Client

namespace Eligibility
namespace Shared

open Client

/-- A client with more members in its sets. -/
structure Tagged (tagKeys : List String) (member : String) (c d : Client) : Prop where
  values : d.values = c.values
  members : ∀ k other, k ∈ d.setAt other ↔ k ∈ c.setAt other ∨
    k = member ∧ other ∈ tagKeys
  sets : ∀ k, d.sets.get? k = none ↔ c.sets.get? k = none ∧ k ∉ tagKeys

theorem Tagged.of_still {c d : Client} (member : String) (still : Still c d) :
    Tagged [] member c d :=
  ⟨still.values, fun k other => by simp [still.setAt], fun k => by simp [still.sets]⟩

theorem Tagged.trans {first later : List String} {member : String} {b c d : Client}
    (h : Tagged first member b c) (h' : Tagged later member c d) :
    Tagged (first ++ later) member b d where
  values := h'.values.trans h.values
  members k other := by
    rw [h'.members, h.members, List.mem_append]
    tauto
  sets k := by
    rw [h'.sets, h.sets, List.mem_append]
    tauto

theorem tagged_addTo (c : Client) (key member : String) :
    Tagged [key] member c (c.addTo key member) where
  values := rfl
  members k other := by
    rw [mem_setAt_addTo, List.mem_singleton]
    tauto
  sets k := by rw [get?_addTo, List.mem_singleton]

/-- A key is put under the first few of its tags, up to the command that is refused.  When it is
put under none, the first of the commands was refused. -/
theorem tagAll_cases (s : Shared) (key : String) (lifetime : Int) (tags : List String)
    (c : Client) : ∃ done, done <+: tags.map s.tagKeyOf ∧
      Tagged done (s.keyOf key) c (tagAll s key lifetime tags c).state ∧
      (done = [] → ∀ tag ∈ tags.head?,
        (∃ fault, (tagAll s key lifetime tags c).result = .error fault) ∧
          (tagAll s key lifetime tags c).state.commands =
            c.commands ++ [.addMember (s.tagKeyOf tag) (s.keyOf key)]) := by
  induction tags generalizing c with
  | nil => exact ⟨[], List.nil_prefix, .of_still _ ⟨rfl, rfl, rfl, rfl⟩, by simp⟩
  | cons tag rest ih =>
    unfold tagAll
    rw [Action.bind_apply]
    obtain ⟨d, still, log, ⟨fault, refused⟩ | ⟨events, obeyed⟩⟩ :=
      addMember_cases (s.tagKeyOf tag) (s.keyOf key) c
    · rw [refused]
      refine ⟨[], List.nil_prefix, .of_still _ still, fun _ other head => ?_⟩
      obtain rfl := Option.some.inj head
      exact ⟨⟨fault, rfl⟩, log⟩
    · rw [obeyed]
      have one : Tagged [s.tagKeyOf tag] (s.keyOf key) c
          (d.addTo (s.tagKeyOf tag) (s.keyOf key)) :=
        (Tagged.of_still (s.keyOf key) still).trans (tagged_addTo d _ _)
      obtain ⟨e, still', -, ⟨fault, refused⟩ | obeyed'⟩ :=
        give_cases (.expire (s.tagKeyOf tag) lifetime) (tagAll s key lifetime rest)
          (d.addTo (s.tagKeyOf tag) (s.keyOf key))
      · have : (Client.expire (s.tagKeyOf tag) lifetime >>= fun _ => tagAll s key lifetime rest)
            (d.addTo (s.tagKeyOf tag) (s.keyOf key)) = ⟨.error fault, e, []⟩ := refused
        rw [this]
        refine ⟨[s.tagKeyOf tag], by simp, ?_, by simp⟩
        simpa using one.trans (Tagged.of_still (s.keyOf key) still')
      · have : (Client.expire (s.tagKeyOf tag) lifetime >>= fun _ => tagAll s key lifetime rest)
            (d.addTo (s.tagKeyOf tag) (s.keyOf key)) = _ := obeyed'
        rw [this]
        obtain ⟨done, first, tagged, -⟩ := ih e
        refine ⟨s.tagKeyOf tag :: done, by simpa using first, ?_, by simp⟩
        have later := (Tagged.of_still (s.keyOf key) still').trans tagged
        exact one.trans later

/-- The exchange of a put. -/
def putting (s : Shared) (key value : String) (lifetime : Int) (tags : List String) :
    Exchange Unit := do
  Client.keep (s.keyOf key) lifetime value
  s.tagAll key lifetime tags

/-- A put is refused and changes nothing, or the value is kept and its key is put under the first
few of its tags.  When it is put under none, the put was broken off right behind the value. -/
theorem putting_cases (s : Shared) (key value : String) (lifetime : Int) (tags : List String)
    (c : Client) :
    Without [] c (putting s key value lifetime tags c).state ∨
      ∃ b done, b.values = c.values.insert (s.keyOf key) value ∧ b.sets = c.sets ∧
        done <+: tags.map s.tagKeyOf ∧
        Tagged done (s.keyOf key) b (putting s key value lifetime tags c).state ∧
        (done = [] → tags ≠ [] →
          (∃ fault, (putting s key value lifetime tags c).result = .error fault) ∧
            TornAt (s.keyOf key) (putting s key value lifetime tags c).state.commands) := by
  unfold putting
  rw [Action.bind_apply]
  obtain ⟨d, still, log, ⟨fault, refused⟩ | ⟨events, obeyed⟩⟩ :=
    keep_cases (s.keyOf key) lifetime value c
  · rw [refused]
    exact .inl still.without
  · rw [obeyed]
    dsimp only
    obtain ⟨done, first, tagged, none⟩ := tagAll_cases s key lifetime tags
      { d with values := d.values.insert (s.keyOf key) value }
    refine .inr ⟨{ d with values := d.values.insert (s.keyOf key) value }, done,
      by rw [still.values], still.sets, first, tagged, fun empty more => ?_⟩
    obtain ⟨tag, head⟩ : ∃ tag, tags.head? = some tag := by
      cases tags with
      | nil => exact absurd rfl more
      | cons tag _ => exact ⟨tag, rfl⟩
    obtain ⟨refused, log'⟩ := none empty tag head
    refine ⟨refused, [.keep (s.keyOf key) lifetime value,
      .addMember (s.tagKeyOf tag) (s.keyOf key)], (List.mem_tails _ _).2 ⟨c.commands, ?_⟩, ?_⟩
    · rw [log']
      show _ = d.commands ++ _
      rw [log]
      simp
    · simp [tornHere, renewed]

theorem foretold_tagAll (s : Shared) (key : String) (lifetime : Int) (tags : List String) :
    Foretold (tagAll s key lifetime tags) := by
  induction tags with
  | nil => exact foretold_pure ()
  | cons tag rest ih =>
    exact (foretold_addMember _ _).bind fun _ => (foretold_give _).bind fun _ => ih

theorem begins_putting (s : Shared) (key value : String) (lifetime : Int) (tags : List String) :
    Begins (putting s key value lifetime tags) (.keep (s.keyOf key) lifetime value) :=
  (begins_keep _ _ _).bind fun _ => foretold_tagAll s key lifetime tags

theorem foretold_putting (s : Shared) (key value : String) (lifetime : Int) (tags : List String) :
    Foretold (putting s key value lifetime tags) :=
  (foretold_keep _ _ _).bind fun _ => foretold_tagAll s key lifetime tags

/-! ### Dropping -/

theorem removeAny_cases (keys : List String) (c : Client) :
    (removeAny keys c).state.snapshot = c.snapshot ∧ (removeAny keys c).state.page = c.page ∧
      ((∃ fault, (removeAny keys c).result = .error fault) ∧
          Without [] c (removeAny keys c).state ∨
        (removeAny keys c).result = .ok (c.present keys).card ∧
          Without keys c (removeAny keys c).state) := by
  unfold removeAny
  split
  · next none =>
    rw [List.isEmpty_iff.1 none]
    exact ⟨rfl, rfl, .inr ⟨rfl, Still.without ⟨rfl, rfl, rfl, rfl⟩⟩⟩
  · exact remove_cases keys c

theorem foretold_removeAny (keys : List String) : Foretold (removeAny keys) := by
  unfold removeAny
  split
  · exact foretold_pure 0
  · exact foretold_remove keys

/-- Dropping a tag removes nothing, the members alone, or the members and the tag; when it comes
to its end, all of them. -/
theorem dropMembers_cases (tag : String) (s : Shared) (c : Client) : ∃ keys,
    Without keys c (dropMembers tag s c).state ∧
      (keys = [] ∨ keys = c.membersOf (s.tagKeyOf tag) ∨
        keys = c.membersOf (s.tagKeyOf tag) ++ [s.tagKeyOf tag]) ∧
      ((∃ count, (dropMembers tag s c).result = .ok count) →
        keys = c.membersOf (s.tagKeyOf tag) ++ [s.tagKeyOf tag]) := by
  unfold dropMembers
  rw [Action.bind_apply]
  obtain ⟨d, still, ⟨fault, refused⟩ | ⟨events, obeyed⟩⟩ := members_cases (s.tagKeyOf tag) c
  · rw [refused]
    exact ⟨[], still.without, .inl rfl, fun ⟨_, no⟩ => by cases no⟩
  rw [obeyed]
  dsimp only
  generalize c.membersOf (s.tagKeyOf tag) = members
  rw [Action.bind_apply]
  obtain ⟨-, -, ⟨⟨fault, refused⟩, same⟩ | ⟨done, gone⟩⟩ := removeAny_cases members d
  · rw [refused]
    exact ⟨[], still.without.trans same, .inl rfl, fun ⟨_, no⟩ => by cases no⟩
  rw [done]
  dsimp only
  rw [Action.bind_apply]
  obtain ⟨-, -, ⟨⟨fault, refused⟩, same⟩ | ⟨done', gone'⟩⟩ :=
    remove_cases [s.tagKeyOf tag] (removeAny members d).state
  · rw [refused]
    refine ⟨members, ?_, .inr (.inl rfl), fun ⟨_, no⟩ => by cases no⟩
    simpa using (still.without.trans gone).trans same
  · rw [done']
    exact ⟨members ++ [s.tagKeyOf tag], (still.without.trans gone).trans gone', .inr (.inr rfl),
      fun _ => rfl⟩

theorem begins_dropMembers (tag : String) (s : Shared) :
    Begins (dropMembers tag s) (.members (s.tagKeyOf tag)) :=
  (begins_members _).bind fun members => (foretold_removeAny members).bind fun _ =>
    (foretold_remove _).bind fun _ => foretold_pure _

theorem foretold_dropMembers (tag : String) (s : Shared) : Foretold (dropMembers tag s) :=
  (foretold_members _).bind fun members => (foretold_removeAny members).bind fun _ =>
    (foretold_remove _).bind fun _ => foretold_pure _

end Shared
end Eligibility
