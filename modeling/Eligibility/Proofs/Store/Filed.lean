/-
# What a store behind a client keeps

Values stand under the keys of the space, sets of members under the keys of tags, and the two
never meet as long as no key looks like that of a tag (`Apart`).  In a store that is in order
(`Filed`) every member of a set is the key of a value that may carry the tag, and every value is a
member of the set of its first tag, unless there is an excuse.

| what happens | why the order stays |
| --- | --- |
| a look-up, a command that is refused | nothing changes |
| a value is removed, or ends | its key may stay a member: a member without a value does no harm |
| a set ends | its time is renewed by every put, so no member of it has a value any more |
| a tag is dropped | the members go before the set goes |
| a put | the value comes first, so a put that breaks off right behind it needs an excuse |
| an emptying that comes to its end | no value is left |
-/

import Eligibility.Proofs.Store.Sweep

namespace Eligibility
namespace Shared

open Client

/-- The client's key for a key in a space. -/
def valueKey (space key : String) : String := space ++ ":" ++ key

/-- The client's key for a tag in a space. -/
def tagKey (space tag : String) : String := space ++ ":tag:" ++ tag

/-- A key that does not look like that of a tag. -/
def Apart (key : String) : Prop := ∀ tag, key ≠ "tag:" ++ tag

variable {space key tag : String}

theorem append_cancel {a b c : String} (same : a ++ b = a ++ c) : b = c := by
  have := congrArg String.toList same
  rw [String.toList_append, String.toList_append] at this
  exact String.toList_inj.1 (List.append_cancel_left this)

theorem prefix_append (a b : String) : a.toList <+: (a ++ b).toList := by
  rw [String.toList_append]
  exact List.prefix_append _ _

/-- The key of a tag is a key of the space. -/
theorem tagKey_eq (space tag : String) : tagKey space tag = space ++ ":" ++ ("tag:" ++ tag) := by
  have literal : ":tag:" = ":" ++ "tag:" := rfl
  rw [tagKey, literal]
  simp only [String.append_assoc]

theorem valueKey_inj {other : String} (same : valueKey space key = valueKey space other) :
    key = other :=
  append_cancel same

theorem tagKey_inj {other : String} (same : tagKey space tag = tagKey space other) : tag = other :=
  append_cancel same

theorem valueKey_ne_tagKey (apart : Apart key) (tag : String) :
    valueKey space key ≠ tagKey space tag := by
  intro same
  exact apart tag (append_cancel (same.trans (tagKey_eq space tag)))

/-- The values and the sets of a client are in order. `W` tells what is kept under a key, and `N`
which tags a key may carry. -/
structure Filed (space : String) (W : String → String → List String → Prop)
    (N : String → String → Prop) (excused : String → List Command → Prop) (c : Client) :
    Prop where
  values : ∀ k v, c.values.get? k = some v → ∃ key tags, k = valueKey space key ∧ W key v tags ∧
    ∀ tag ∈ tags.head?, k ∈ c.setAt (tagKey space tag) ∨ excused k c.commands
  members : ∀ tag, ∀ k ∈ c.setAt (tagKey space tag), ∃ key, k = valueKey space key ∧ N key tag
  sets : ∀ k, c.sets.get? k ≠ none → ∃ tag, k = tagKey space tag

variable {W : String → String → List String → Prop} {N : String → String → Prop}
  {excused : String → List Command → Prop} {c d : Client}

theorem filed_empty (noValue : c.values = .empty) (noSet : c.sets = .empty) :
    Filed space W N excused c := by
  refine ⟨fun k v there => ?_, fun tag k member => ?_, fun k there => ?_⟩
  · rw [noValue] at there
    cases there
  · rw [setAt, noSet] at member
    cases member
  · rw [noSet] at there
    exact absurd rfl there

/-- Keys may be removed, as long as no set is removed that still has a member with a value, or
there is an excuse for the member. -/
theorem Filed.without {keys : List String} (h : Filed space W N excused c)
    (gone : Without keys c d) (log : ∀ k, excused k c.commands → excused k d.commands)
    (cover : ∀ k v tag, c.values.get? k = some v → k ∉ keys → k ∈ c.setAt (tagKey space tag) →
      tagKey space tag ∈ keys → excused k d.commands) : Filed space W N excused d := by
  refine ⟨fun k v there => ?_, fun tag k member => ?_, fun k there => ?_⟩
  · rw [gone.values] at there
    split at there
    · cases there
    · next kept =>
      obtain ⟨key, tags, rfl, w, covered⟩ := h.values k v there
      refine ⟨key, tags, rfl, w, fun tag head => ?_⟩
      rcases covered tag head with member | excuse
      · by_cases lost : tagKey space tag ∈ keys
        · exact .inr (cover _ v tag there kept member lost)
        · rw [gone.setAt, if_neg lost]
          exact .inl member
      · exact .inr (log _ excuse)
  · rw [gone.setAt] at member
    split at member
    · cases member
    · exact h.members tag k member
  · rw [gone.sets] at there
    split at there
    · exact absurd rfl there
    · exact h.sets k there

/-- A key may end, when for each member that it has and that has a value there is an excuse. -/
theorem filed_drop (h : Filed space W N excused c) (key : String)
    (excuse : ∀ k ∈ c.setAt key, c.values.contains k → excused k c.commands) :
    Filed space W N excused (c.drop key) := by
  refine h.without (without_drop c key) (fun _ => id) fun k v tag there _ member lost => ?_
  rw [List.mem_singleton.1 lost] at member
  refine excuse k member ?_
  rw [Keyed.contains, there]
  rfl

/-- What is known of the values is known better. -/
theorem Filed.sharpen {W' : String → String → List String → Prop}
    (h : Filed space W N excused c)
    (better : ∀ key v tags, c.values.get? (valueKey space key) = some v → W key v tags →
      (∀ tag ∈ tags.head?,
        valueKey space key ∈ c.setAt (tagKey space tag) ∨ excused (valueKey space key) c.commands) →
      W' key v tags) : Filed space W' N excused c := by
  refine ⟨fun k v there => ?_, h.members, h.sets⟩
  obtain ⟨key, tags, rfl, w, covered⟩ := h.values k v there
  exact ⟨key, tags, rfl, better key v tags there w covered, covered⟩

/-- An excuse for one key lasts, whatever is said after it. -/
def Lasting (excused : String → List Command → Prop) : Prop :=
  ∀ k log command later, excused k log → Leads command → log ++ [command] <+: later →
    excused k later

section Operations

variable {α : Type} (lasting : Lasting excused)

include lasting

theorem excused_begins {x : Exchange α} {command : Command} (begins : Begins x command)
    (leads : Leads command) (c : Client) (k : String) (excuse : excused k c.commands) :
    excused k (x c).state.commands :=
  lasting k _ command _ excuse leads (begins c)

theorem filed_value (h : Filed space W N excused c) (k : String) :
    Filed space W N excused (Client.value k c).state := by
  have begins : Begins (Client.value k) (.value k) :=
    (begins_give _).bind fun _ => foretold_ofPair fun _ => ⟨rfl, rfl⟩
  exact h.without (value_cases k c).1.without
    (excused_begins lasting begins True.intro c) (by simp)

theorem filed_holds (h : Filed space W N excused c) (k : String) :
    Filed space W N excused (Client.holds k c).state := by
  have begins : Begins (Client.holds k) (.holds k) :=
    (begins_give _).bind fun _ => foretold_ofPair fun _ => ⟨rfl, rfl⟩
  exact h.without (holds_cases k c).1.without
    (excused_begins lasting begins True.intro c) (by simp)

theorem filed_remove (h : Filed space W N excused c) (apart : Apart key) :
    Filed space W N excused (Client.remove [valueKey space key] c).state := by
  have log := excused_begins lasting (begins_remove [valueKey space key]) True.intro c
  obtain ⟨-, -, ⟨-, same⟩ | ⟨-, gone⟩⟩ := remove_cases [valueKey space key] c
  · exact h.without same log (by simp)
  · refine h.without gone log fun k v tag _ _ _ lost => ?_
    exact absurd (List.mem_singleton.1 lost).symm (valueKey_ne_tagKey apart tag)

variable (apart : ∀ key tag, N key tag → Apart key)

include apart

theorem filed_dropMembers (h : Filed space W N excused c) (s : Shared) (same : s.space = space)
    (tag : String) : Filed space W N excused (dropMembers tag s c).state := by
  subst same
  have log := excused_begins lasting (begins_dropMembers tag s) True.intro c
  -- No set is a member of another, so only the set of the tag itself can go.
  have others : ∀ other, tagKey s.space other ∉ c.membersOf (s.tagKeyOf tag) := by
    intro other member
    obtain ⟨key, eq, named⟩ := h.members tag _ (mem_membersOf.1 member)
    exact valueKey_ne_tagKey (apart key tag named) other eq.symm
  obtain ⟨keys, gone, how, -⟩ := dropMembers_cases tag s c
  refine h.without gone log fun k v other there kept covered lost => ?_
  rcases how with rfl | rfl | rfl
  · exact absurd lost List.not_mem_nil
  · exact absurd lost (others other)
  · rw [List.mem_append] at kept lost
    rcases lost with lost | lost
    · exact absurd lost (others other)
    · rw [List.mem_singleton.1 lost] at covered
      exact absurd (.inl (mem_membersOf.2 covered)) kept

omit apart in
/-- A put keeps the order when it comes to its end, and when it breaks off for an excuse. -/
theorem filed_putting (named : ∀ key v tags, W key v tags → ∀ tag ∈ tags, N key tag)
    (h : Filed space W N excused c) (s : Shared) (same : s.space = space) {value : String}
    {lifetime : Int} {tags : List String} (w : W key value tags)
    (torn : (∃ fault, (putting s key value lifetime tags c).result = .error fault) →
      TornAt (valueKey space key) (putting s key value lifetime tags c).state.commands →
      excused (valueKey space key) (putting s key value lifetime tags c).state.commands) :
    Filed space W N excused (putting s key value lifetime tags c).state := by
  subst same
  have log := excused_begins lasting (begins_putting s key value lifetime tags) True.intro c
  rcases putting_cases s key value lifetime tags c with
    still | ⟨b, done, values, sets, first, tagged, none⟩
  · exact h.without still log (by simp)
  have before (other : String) : b.setAt other = c.setAt other := by
    unfold setAt
    rw [sets]
  refine ⟨fun k v there => ?_, fun tag k member => ?_, fun k there => ?_⟩
  · rw [tagged.values, values, Keyed.get?_insert] at there
    split at there
    · next eq =>
      obtain rfl := Option.some.inj there
      refine ⟨key, tags, eq, w, fun tag head => ?_⟩
      cases tags with
      | nil => cases head
      | cons first' rest =>
        obtain rfl := Option.some.inj head
        cases done with
        | nil =>
          obtain ⟨fault, broken⟩ := none rfl (List.cons_ne_nil _ _)
          rw [eq]
          exact .inr (torn fault broken)
        | cons one more =>
          have here : one = tagKey s.space first' := (List.cons_prefix_cons.1 first).1
          exact .inl ((tagged.members k _).2 (.inr ⟨eq, by simp [here]⟩))
    · obtain ⟨other, tags', rfl, w', covered⟩ := h.values k v there
      refine ⟨other, tags', rfl, w', fun tag head => (covered tag head).imp (fun member => ?_) (log _)⟩
      exact (tagged.members _ _).2 (.inl (by rwa [before]))
  · rcases (tagged.members k _).1 member with old | ⟨rfl, under⟩
    · rw [before] at old
      exact h.members tag k old
    · obtain ⟨tag', there, eq⟩ := List.mem_map.1 (first.subset under)
      obtain rfl : tag' = tag := tagKey_inj eq
      exact ⟨key, rfl, named key value tags w tag' there⟩
  · rw [Ne, tagged.sets, sets] at there
    by_cases under : k ∈ done
    · obtain ⟨tag', -, eq⟩ := List.mem_map.1 (first.subset under)
      exact ⟨tag', eq.symm⟩
    · exact h.sets k fun absent => there ⟨absent, under⟩

end Operations

/-- Dropping a tag that comes to its end leaves no value whose first tag it is, but those for
which there is an excuse. -/
theorem Filed.ofDropped (h : Filed space W N excused c) (empty : c.setAt (tagKey space tag) = []) :
    Filed space (fun key v tags =>
      W key v tags ∧ (tags.head? = some tag → excused (valueKey space key) c.commands))
      N excused c := by
  refine h.sharpen fun key v tags _ w covered => ⟨w, fun head => ?_⟩
  rcases covered tag head with member | excuse
  · rw [empty] at member
    exact absurd member List.not_mem_nil
  · exact excuse

/-- When an emptying comes to its end, there is nothing left to be in order. -/
theorem filed_sweepAll {W' : String → String → List String → Prop}
    (h : Filed space W N excused c) (s : Shared) (same : s.space = space)
    (ended : ∃ count, (sweepAll s c).result = .ok count) :
    Filed space W' N excused (sweepAll s c).state := by
  subst same
  obtain ⟨keys, -, gone, -⟩ := sweepAll_cases s c
  have start : (s.keyOf "").toList = (s.space ++ ":").toList := by simp [keyOf]
  have value (key : String) : (s.keyOf "").toList <+: (valueKey s.space key).toList := by
    rw [start]
    exact prefix_append (s.space ++ ":") key
  have set (tag : String) : (s.keyOf "").toList <+: (tagKey s.space tag).toList := by
    rw [start, tagKey_eq]
    exact prefix_append (s.space ++ ":") ("tag:" ++ tag)
  have noValue (k : String) : (sweepAll s c).state.values.get? k = none := by
    by_contra there
    obtain ⟨v, there⟩ := Option.ne_none_iff_exists'.1 there
    have before := gone.values k
    rw [there] at before
    split at before
    · cases before
    · obtain ⟨key, tags, rfl, -⟩ := h.values k v before.symm
      rw [(sweepAll_gone ended (value key)).1] at there
      cases there
  have noSet (k : String) : (sweepAll s c).state.sets.get? k = none := by
    by_contra there
    have before := gone.sets k
    split at before
    · exact there before
    · rw [before] at there
      obtain ⟨tag, rfl⟩ := h.sets k there
      rw [← before] at there
      exact there (sweepAll_gone ended (set tag)).2
  refine ⟨fun k v there => ?_, fun tag k member => ?_, fun k there => ?_⟩
  · rw [noValue] at there
    cases there
  · rw [setAt, noSet] at member
    exact absurd member List.not_mem_nil
  · exact absurd (noSet k) there

end Shared
end Eligibility
