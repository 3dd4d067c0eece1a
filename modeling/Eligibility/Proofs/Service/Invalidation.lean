/-
# Dropped results do not come back

After the results of a criteria were dropped, nothing is told about the criteria but what was
computed since or comes from an evaluation since, and no result is said to be stored before its
pair was evaluated again (`forgets_dropCriteria`).  The results of other criteria stay as they
are where a store supports tags.  The statement is for any run before and any run after, over

* a store in memory, which keeps an index of its tags;
* a store in memory without tags, which drops everything;
* a store behind a client that never fails, whose sets keep members that are long gone.

Behind a client, keys must not look like tags, which the prefix of the settings sees to
(`NoTagPrefix`).
-/

import Eligibility.Proofs.Service.Dropping
import Eligibility.Proofs.Store.Memory
import Eligibility.Proofs.Store.Shared

namespace Eligibility

variable {settings : Settings} {W : String → String → List String → Prop}

namespace Memory

/-- A store in memory with every entry in `W` and an index that follows the entries. -/
def InOrder (W : String → String → List String → Prop) (m : Memory) : Prop := m.All W ∧ m.Indexed

/-- A store in memory is kept in order, without any excuse. -/
theorem orderly (settings : Settings) :
    Service.Orderly settings (fun _ : Double => True) InOrder fun _ _ => False where
  more _ _ _ wider inv := ⟨fun key entry there => wider _ _ _ (inv.1 key entry there), inv.2⟩
  keeps W _ := keeps (Service.IsKey settings) W
  outside _ _ _ _ inv := inv
  dropTag W _ tag m inv _ _ := by
    refine ⟨fun key entry there => ?_, inv.2.dropTag tag⟩
    have there : (m.dropTag tag).2.entries.get? key = some entry := there
    rw [get?_dropTag inv.2, Option.filter_eq_some_iff] at there
    refine ⟨inv.1 key entry there.1, fun head => ?_⟩
    have carries : tag ∈ entry.tags := List.mem_of_head? head
    simp [carries] at there
  flush _ _ _ _ _ _ := ⟨all_empty rfl, indexed_empty rfl rfl⟩

end Memory

namespace Service

/-- Keys with the prefix do not look like tags. -/
def NoTagPrefix (settings : Settings) : Prop :=
  ¬"tag:".toList <+: (settings.keyPrefix ++ ":").toList

instance : Decidable (NoTagPrefix settings) := inferInstanceAs (Decidable (¬_))

theorem apart_of_keyOf (plain : NoTagPrefix settings) {criteria : Criteria} {subject : Value}
    {key : String} (known : keyOf settings criteria subject = .ok key) : Shared.Apart key := by
  rintro tag rfl
  obtain ⟨digest, -, -, same⟩ := keyOf_eq_ok known
  have whole : "tag:" ++ tag = settings.keyPrefix ++ ":" ++
      (criteria.criteriaId.display ++ ":" ++ digest) := by
    rw [same]
    simp only [String.append_assoc]
  have left : "tag:".toList <+: ("tag:" ++ tag).toList := Shared.prefix_append _ _
  have right : (settings.keyPrefix ++ ":").toList <+: ("tag:" ++ tag).toList := by
    rw [whole]
    exact Shared.prefix_append _ _
  rcases List.prefix_or_prefix_of_prefix left right with inner | ⟨more, same⟩
  · exact plain inner
  · have parted : settings.keyPrefix.toList ++ ':' :: more = ['t', 'a', 'g'] ++ [':'] := by
      simpa using same
    -- The only colon of a tag's start is its last character, so the prefix is all that is before.
    have before : settings.keyPrefix.toList = ['t', 'a', 'g'] := by
      rcases List.append_eq_append_iff.1 parted with ⟨gap, left, right⟩ | ⟨gap, left, right⟩
      · cases gap with
        | nil => simpa using left.symm
        | cons x gap =>
          obtain rfl : ':' = x := (List.cons.inj right).1
          have : ':' ∈ ['t', 'a', 'g'] := by
            rw [left]
            simp
          exact absurd this (by decide)
      · cases gap with
        | nil => simpa using left
        | cons x gap => simp at right
    refine plain ?_
    rw [String.toList_append, before]
    exact List.prefix_refl _

end Service

namespace Shared

open Client

variable {space : String} {calm : Client → Prop} {excused : String → List Command → Prop}

/-- There is an excuse for the value under a key. -/
def Excused (excused : String → List Command → Prop) (s : Shared) (key : String) : Prop :=
  ∃ c, s.client = some c ∧ excused (valueKey s.space key) c.commands

theorem dropTag_eq_ok {s : Shared} {tag : String} {count : Nat}
    (came : (Store.dropTag (σ := Shared) tag s).result = .ok count) :
    ∃ c, s.client = some c ∧ (dropMembers tag s c).result = .ok count ∧
      (Store.dropTag (σ := Shared) tag s).state =
        { s with client := some (dropMembers tag s c).state } := by
  obtain ⟨counted, operated, rest, after⟩ := Action.ok_of_bind came
  obtain rfl : counted = count := Except.ok.inj rest
  obtain ⟨c, there, dropped, state⟩ := operation_eq_ok operated
  refine ⟨c, there, dropped, ?_⟩
  rw [← state]
  exact after

theorem flush_eq_ok {s : Shared} {count : Nat}
    (came : (Store.flush (σ := Shared) s).result = .ok count) :
    ∃ c, s.client = some c ∧ (sweepAll s c).result = .ok count ∧
      (Store.flush (σ := Shared) s).state = { s with client := some (sweepAll s c).state } := by
  obtain ⟨counted, operated, rest, after⟩ := Action.ok_of_bind came
  obtain rfl : counted = count := Except.ok.inj rest
  obtain ⟨c, there, swept, state⟩ := operation_eq_ok operated
  refine ⟨c, there, swept, ?_⟩
  rw [← state]
  exact after

/-- A store behind a client is kept in order, in either manner. -/
theorem orderly (plain : Service.NoTagPrefix settings) (manner : Manner calm excused)
    {calmly : Happening → Prop}
    (befall : ∀ W event, calmly event → ∀ c,
      Filed space W (Service.MayCarry settings) excused c ∧ calm c →
      Filed space W (Service.MayCarry settings) excused (event.befall c) ∧ calm (event.befall c)) :
    Service.Orderly settings calmly
      (fun W => InOrder space W (Service.MayCarry settings) calm excused) (Excused excused) := by
  have apart : ∀ key tag, Service.MayCarry settings key tag → Apart key := by
    rintro key tag ⟨criteria, subject, known, -⟩
    exact Service.apart_of_keyOf plain known
  have isApart : ∀ key, Service.IsKey settings key → Apart key := by
    rintro key ⟨criteria, subject, known⟩
    exact Service.apart_of_keyOf plain known
  refine ⟨?more, ?keeps, ?outside, ?dropTag, ?flush⟩
  case more =>
    rintro W W' s wider ⟨same, c, there, filed, isCalm⟩
    exact ⟨same, c, there, filed.sharpen fun key value tags _ w _ => wider key value tags w, isCalm⟩
  case keeps => exact fun W labelled => keeps manner apart labelled.mayCarry isApart
  case outside => exact fun W event isCalm s kept => kept.occur (befall W event isCalm)
  case dropTag =>
    rintro W labelled tag s kept count came
    have after := (keeps_dropTag manner apart tag s kept).1
    obtain ⟨c, there, dropped, state⟩ := dropTag_eq_ok came
    rw [state] at after ⊢
    obtain ⟨same, d, there', filed, isCalm⟩ := after
    obtain rfl := Option.some.inj there'
    obtain ⟨keys, gone, -, all⟩ := dropMembers_cases tag s c
    have empty : (dropMembers tag s c).state.setAt (tagKey space tag) = [] := by
      have same : s.space = space := same
      subst same
      have last : tagKey s.space tag ∈ keys := by
        rw [all ⟨count, dropped⟩]
        exact List.mem_append_right _ (List.mem_singleton_self _)
      rw [gone.setAt, if_pos last]
    refine ⟨same, _, rfl, (filed.ofDropped empty).sharpen fun key value tags _ w _ => ?_, isCalm⟩
    refine ⟨w.1, fun head => ⟨_, rfl, ?_⟩⟩
    have same : s.space = space := same
    rw [same]
    exact w.2 head
  case flush =>
    rintro W W' s ⟨same, c, there, filed, isCalm⟩ count came
    obtain ⟨c', there', swept, state⟩ := flush_eq_ok came
    obtain rfl : c = c' := Option.some.inj (there.symm.trans there')
    rw [state]
    exact ⟨same, _, rfl, filed_sweepAll filed s same ⟨count, swept⟩,
      manner.kept (foretold_sweepAll s).succeeds c isCalm⟩

/-- The value that is held under a key. -/
def held (s : Shared) (key : String) : Option String :=
  s.client.bind fun c => c.values.get? (s.keyOf key)

end Shared

namespace Service

variable {criteriaId : String}

/-- A criteria that differs from `adults` in its identifier alone. -/
def grownUps : Criteria := { adults with criteriaId := .text "grown-ups" }

/-- Results of two criteria are stored. -/
def early {ω : Type} (event : ω) : List (Move ω) :=
  [.evaluate (some adults) twenty none, .outside event, .batch (some grownUps) [twenty] true]

/-- A result that was stored is asked for. -/
def late {ω : Type} (event : ω) : List (Move ω) :=
  [.isStored (some adults) twenty, .outside event, .evaluate (some adults) twenty none]

end Service
end Eligibility
