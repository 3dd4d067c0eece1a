/-
# What is not read does not matter

A criteria reads a subject at the paths of its active rules and of their conditions.  What stands
anywhere else makes no difference to an evaluation: neither the order of the members of the
subject, nor members that no path leads into, nor what is nested beside the paths
(`Criteria.evaluate_blind`).

A path that is itself a key of the subject is read there and nowhere else; only when it is no key do
its segments lead into the subject.
-/

import Eligibility.Proofs.Criteria.Fields
import Eligibility.Proofs.Value.Members

namespace Eligibility

namespace Value

/-- The value with another one put where keys lead.  Where they lead nowhere nothing changes. -/
def replaced (new : Value) : List String → Value → Value
  | [], _ => new
  | key :: rest, map members =>
    map (members.map fun m => if isUnder key m then (m.1, replaced new rest m.2) else m)
  | _ :: _, v => v

theorem find?_replaced (members : List (Value × Value)) (new : Value) (key : String)
    (rest : List String) (other : String) :
    find? (members.map fun m => if isUnder key m then (m.1, replaced new rest m.2) else m) other =
      if key = other then (find? members key).map (replaced new rest) else find? members other := by
  have keys : isUnder other ∘ (fun m => if isUnder key m then (m.1, replaced new rest m.2) else m) =
      isUnder other := by
    funext m
    rw [Function.comp_apply]
    split <;> rfl
  rw [find?_eq, find?_eq, find?_eq, List.find?_map, keys, Option.map_map, Option.map_map]
  split
  · next same =>
    subst same
    refine Option.map_congr fun m found => ?_
    simp [List.find?_some found]
  · next differ =>
    refine Option.map_congr fun m found => ?_
    have under : isUnder other m := List.find?_some found
    simp [isUnder, beq_iff_eq.1 under, Ne.symm differ]

end Value

/-! ### Fields -/

namespace Field

variable {members others : List (Value × Value)} {path : String}

/-- A path that is no key leads into a map by its first segment. -/
theorem resolve_congr_of_keys (whole : Value.find? members path = Value.find? others path)
    (led : (Value.find? members path).isSome ∨ ∀ first ∈ (segments path).head?,
      Value.find? members first = Value.find? others first) :
    resolve (.map members) path = resolve (.map others) path := by
  rw [resolve, resolve, ← whole]
  cases found : Value.find? members path with
  | some v => rfl
  | none =>
    obtain ⟨first, rest, split⟩ := exists_segments path
    rw [found, split] at led
    obtain no | led := led
    · cases no
    · rw [split, walk?, walk?, step?, step?, led first rfl]

/-- What is put beside the way that segments lead does not change where they lead. -/
theorem walk?_replaced {place way : List String} (above : ¬place <+: way) (below : ¬way <+: place)
    (new v : Value) : walk? (Value.replaced new place v) way = walk? v way := by
  induction place generalizing way v with
  | nil => exact absurd (List.nil_prefix) above
  | cons key rest ih =>
    cases way with
    | nil => exact absurd (List.nil_prefix) below
    | cons segment way =>
      cases v with
      | map members =>
        rw [Value.replaced, walk?, walk?, step?, step?, Value.find?_replaced]
        split
        · next same =>
          subst same
          rw [List.cons_prefix_cons, not_and] at above below
          cases Value.find? members key with
          | none => rfl
          | some inner => exact ih (above rfl) (below rfl) inner
        · rfl
      | _ => rfl

/-- A path does not read what stands in a map where keys lead: it is not the first key, and unless
the path is itself a key, its segments lead neither there nor above nor below. -/
def Misses (members : List (Value × Value)) (path : String) (place : List String) : Prop :=
  place.head? ≠ some path ∧ ((Value.find? members path).isSome ∨
    ¬place <+: segments path ∧ ¬segments path <+: place)

theorem resolve_replaced {key : String} {rest : List String}
    (misses : Misses members path (key :: rest)) (new : Value) :
    resolve (Value.replaced new (key :: rest) (.map members)) path =
      resolve (.map members) path := by
  obtain ⟨other, apart⟩ := misses
  have whole := Value.find?_replaced members new key rest path
  rw [if_neg (by simpa using other)] at whole
  rcases apart with found | ⟨above, below⟩
  · obtain ⟨v, found⟩ := Option.isSome_iff_exists.1 found
    rw [Value.replaced, resolve, resolve, whole, found]
  · exact resolve_congr_of_path whole (walk?_replaced above below new (.map members))

end Field

/-! ### Evaluations -/

namespace Criteria

/-- **A criteria is blind to what it does not read.**  Subjects on which the fields of its active
rules and of their conditions have the same values get the same evaluation or the same failure, with
the same events.  So the order of members makes no difference, nor do members that no path leads
into, nor does what stands beside the paths further inside. -/
theorem evaluate_blind (criteria : Criteria) (settings : Settings) :
    (∀ s t, (∀ path ∈ criteria.paths, Field.resolve s path = Field.resolve t path) →
      criteria.evaluate settings s = criteria.evaluate settings t) ∧
    (∀ members others, (members.filterMap (·.1.asText?)).Nodup → members.Perm others →
      criteria.evaluate settings (.map members) = criteria.evaluate settings (.map others)) ∧
    (∀ members more, (∀ m ∈ more, ∀ path ∈ criteria.paths, m.1.asText? ≠ some path ∧
        ((Value.find? members path).isSome ∨ m.1.asText? ≠ (Field.segments path).head?)) →
      criteria.evaluate settings (.map (members ++ more)) =
        criteria.evaluate settings (.map members)) ∧
    (∀ members key rest new, (∀ path ∈ criteria.paths, Field.Misses members path (key :: rest)) →
      criteria.evaluate settings (Value.replaced new (key :: rest) (.map members)) =
        criteria.evaluate settings (.map members)) := by
  refine ⟨fun s t same => ?_, fun members others distinct perm => ?_,
    fun members more apart => ?_, fun members key rest new misses => ?_⟩
  · exact evaluate_eq_of_paths same settings
  · exact evaluate_eq_of_fields (Field.resolve_congr (Value.find?_of_perm distinct perm)) criteria
      settings
  · refine evaluate_eq_of_paths (fun path read => ?_) settings
    have none {key : String} (differ : ∀ m ∈ more, m.1.asText? ≠ some key) :
        Value.find? (members ++ more) key = Value.find? members key := by
      rw [Value.find?_append, Value.find?_eq_none differ, Option.or_none]
    have whole := none fun m added => (apart m added path read).1
    refine Field.resolve_congr_of_keys whole ?_
    rw [whole]
    refine or_iff_not_imp_left.2 fun absent first leads => none fun m added same => ?_
    exact ((apart m added path read).2.resolve_left absent) (same.trans leads.symm)
  · exact evaluate_eq_of_paths
      (fun path read => Field.resolve_replaced (misses path read) new) settings

/-- Adults in Oslo; what is secret is not asked any more. -/
def residents : Criteria where
  criteriaId := .text "residents"
  rules := [
    { ruleId := .text "city", field := "address.city", operator := .text "==",
      expected := .text "Oslo",
      dependencies := [{ field := "age", operator := .text ">=", expected := .int 18 }] },
    { ruleId := .text "secret", field := "secret", operator := .text "==", active := .bool false }]

/-- The members of a resident. -/
def ada : List (Value × Value) :=
  [(.text "age", .int 36),
    (.text "address", .map [(.text "city", .text "Oslo"), (.text "street", .text "Storgata")])]

theorem paths_residents : residents.paths = ["address.city", "age"] := rfl

/-- A resident whose city is told by a key of that name, whose members come in another order, who
has a secret, or who moves within the city. -/
theorem evaluate_blind_residents :
    residents.evaluate {} (.map ada) = residents.evaluate {}
      (.map [(.text "address.city", .text "Oslo"), (.text "age", .int 36)]) ∧
    residents.evaluate {} (.map ada) = residents.evaluate {} (.map ada.reverse) ∧
    residents.evaluate {} (.map (ada ++ [(.text "secret", .bool true), (.int 7, .null)])) =
      residents.evaluate {} (.map ada) ∧
    residents.evaluate {}
        (Value.replaced (.text "Havnegata") ["address", "street"] (.map ada)) =
      residents.evaluate {} (.map ada) := by
  obtain ⟨fields, order, extra, nested⟩ := evaluate_blind residents {}
  refine ⟨fields _ _ ?_, order _ _ ?_ (List.reverse_perm ada).symm, extra _ _ ?_, nested _ _ _ _ ?_⟩
  · rw [paths_residents]
    simp only [List.forall_mem_cons]
    exact ⟨rfl, rfl, nofun⟩
  · decide
  · rw [paths_residents]
    simp only [List.forall_mem_cons]
    decide
  · rw [paths_residents]
    simp only [List.forall_mem_cons]
    refine ⟨?_, ?_, nofun⟩
    · exact ⟨by decide, .inr (by decide)⟩
    · exact ⟨by decide, .inl rfl⟩

end Criteria
end Eligibility
