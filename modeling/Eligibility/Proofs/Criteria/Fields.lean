/-
# What a criteria sees of a subject

Rules and their conditions see the values of fields and nothing else of a subject.  A rule names its
own field and those of its conditions (`Rule.paths`), and of the rules only those count that are
active and in force (`Criteria.paths`).  Subjects whose fields at these paths have the same values
get the same evaluation, events included (`Criteria.evaluate_eq_of_paths`).  Maps that find the same
values under texts have fields of the same values.
-/

import Eligibility.Proofs.Criteria.Returning

namespace Eligibility

/-- A chain is known by what its rest does with what its first step returns. -/
theorem Trial.bind_congr {α β : Type} {x : Trial α} {f g : α → Trial β}
    (same : ∀ a, x.result = .ok a → f a = g a) : x >>= f = x >>= g := by
  have rest : ∀ out, (ExceptT.run x).value = out →
      ExceptT.bindCont (m := Noted) f out = ExceptT.bindCont g out := by
    rintro (failure | a) came
    · rfl
    · exact congrArg ExceptT.run (same a came)
  have later := rest _ rfl
  refine ExceptT.ext (Noted.ext ?_ ?_)
  · exact (congrArg Noted.value later :)
  · exact (congrArg (fun last => x.events ++ last.events) later :)

/-- The paths of a rule: its own, and those of its conditions. -/
def Rule.paths (rule : Rule) : List String := rule.field :: rule.dependencies.map (·.field)

/-- The paths of the active rules in force. -/
def Criteria.paths (criteria : Criteria) : List String := criteria.activeRules.flatMap (·.paths)

section

variable {s t : Value}

theorem Rule.conditionsHold_eq_of_paths {conditions : List Condition}
    (same : ∀ path ∈ conditions.map (·.field), Field.resolve s path = Field.resolve t path) :
    conditionsHold s conditions = conditionsHold t conditions := by
  induction conditions with
  | nil => rfl
  | cons condition rest ih =>
    rw [List.map_cons, List.forall_mem_cons] at same
    rw [conditionsHold, conditionsHold, same.1, ih same.2]

theorem Rule.check_eq_of_paths {rule : Rule}
    (same : ∀ path ∈ rule.paths, Field.resolve s path = Field.resolve t path) :
    rule.check s = rule.check t := by
  rw [paths, List.forall_mem_cons] at same
  rw [check, check, applies, applies, evaluate, evaluate, conditionsHold_eq_of_paths same.2, same.1]

theorem Group.outcomes_eq_of_paths {rules : List Rule}
    (same : ∀ path ∈ rules.flatMap (·.paths), Field.resolve s path = Field.resolve t path) :
    outcomes s rules = outcomes t rules := by
  induction rules with
  | nil => rfl
  | cons rule rest ih =>
    rw [List.flatMap_cons, List.forall_mem_append] at same
    rw [outcomes, outcomes, Rule.checkClosed, Rule.checkClosed, Rule.check_eq_of_paths same.1,
      ih same.2]

theorem Criteria.outcomes_eq_of_paths {groups : List Group}
    (same : ∀ path ∈ (groups.flatMap (·.activeRules)).flatMap (·.paths),
      Field.resolve s path = Field.resolve t path) : outcomes s groups = outcomes t groups := by
  induction groups with
  | nil => rfl
  | cons group rest ih =>
    rw [List.flatMap_cons, List.flatMap_append, List.forall_mem_append] at same
    rw [outcomes, outcomes, Group.evaluate, Group.evaluate, Group.outcomes_eq_of_paths same.1,
      ih same.2]

/-- **Subjects whose fields have the same values where a criteria looks get the same evaluation**,
events included. -/
theorem Criteria.evaluate_eq_of_paths {criteria : Criteria}
    (same : ∀ path ∈ criteria.paths, Field.resolve s path = Field.resolve t path)
    (settings : Settings) : criteria.evaluate settings s = criteria.evaluate settings t := by
  rw [evaluate, evaluate]
  refine Trial.bind_congr fun groups inForce => ?_
  rw [paths, activeRules_eq inForce] at same
  simp only [outcomes_eq_of_paths same]

/-- Subjects whose fields have the same values get the same evaluation. -/
theorem Criteria.evaluate_eq_of_fields
    (same : ∀ path, Field.resolve s path = Field.resolve t path) (criteria : Criteria)
    (settings : Settings) : criteria.evaluate settings s = criteria.evaluate settings t :=
  evaluate_eq_of_paths (fun path _ => same path) settings

end

namespace Field

theorem segmentsOf_ne_nil (cs : List Char) : segmentsOf cs ≠ [] := by
  cases cs with
  | nil => nofun
  | cons c rest =>
    rw [segmentsOf]
    split
    · nofun
    · split
      · nofun
      · nofun

/-- A path has a first segment. -/
theorem exists_segments (path : String) : ∃ first rest, segments path = first :: rest := by
  obtain ⟨first, rest, split⟩ := List.exists_cons_of_ne_nil (segmentsOf_ne_nil path.toList)
  exact ⟨String.ofList first, rest.map String.ofList, by rw [segments, split, List.map_cons]⟩

/-- Of a map a path sees what is found under the path as a whole, and where its segments lead. -/
theorem resolve_congr_of_path {members others : List (Value × Value)} {path : String}
    (whole : Value.find? members path = Value.find? others path)
    (led : walk? (.map members) (segments path) = walk? (.map others) (segments path)) :
    resolve (.map members) path = resolve (.map others) path := by
  rw [resolve, resolve, whole, led]

/-- Maps that find the same values under texts have fields of the same values. -/
theorem resolve_congr {members others : List (Value × Value)}
    (same : ∀ key, Value.find? members key = Value.find? others key) (path : String) :
    resolve (.map members) path = resolve (.map others) path := by
  obtain ⟨first, rest, split⟩ := exists_segments path
  refine resolve_congr_of_path (same path) ?_
  rw [split, walk?, walk?, step?, step?, same]

end Field

end Eligibility
