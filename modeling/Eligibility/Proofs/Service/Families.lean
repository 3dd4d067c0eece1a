/-
# Families of failures

What goes wrong in an evaluation outside the store.  A subject that is not accepted is a matter of
validation (`Subject.failsIn_validate`).  What fails the engine is of no family
(`Criteria.failsIn_evaluate`), and neither are the failures for want of a key
(`Service.strange_of_keyOf`) and for want of a stored form (`Evaluation.strange_of_stored`).
-/

import Eligibility.Proofs.Trial
import Eligibility.Service.Evaluation

namespace Eligibility

/-- A failure of no family. -/
abbrev Failure.Strange (failure : Failure) : Prop := failure.family? = none

/-- The family of what something has failed with. -/
def Failure.familyOf? {α : Type} : Except Failure α → Option Family
  | .ok _ => none
  | .error failure => failure.family?

/-! ### Trials -/

namespace Trial

variable {α β : Type} {P : Failure → Prop}

/-- What a trial may fail with is in `P`. -/
def FailsIn (P : Failure → Prop) (x : Trial α) : Prop :=
  ∀ failure, x.result = .error failure → P failure

namespace FailsIn

theorem pure {a : α} : FailsIn P (Pure.pure a : Trial α) := fun _ no => by cases no

theorem note {event : Event} : FailsIn P (Trial.note event) := fun _ no => by cases no

theorem ofNoted {x : Noted α} : FailsIn P (Trial.ofNoted x) := fun _ no => by cases no

theorem throw {failure : Failure} (here : P failure) : FailsIn P (throw failure : Trial α) := by
  rintro _ ⟨⟩
  exact here

theorem ofExcept {x : Except Failure α} (here : ∀ failure, x = .error failure → P failure) :
    FailsIn P (Trial.ofExcept x) := here

theorem bind {x : Trial α} {f : α → Trial β} (first : FailsIn P x) (rest : ∀ a, FailsIn P (f a)) :
    FailsIn P (x >>= f) := by
  intro failure came
  rw [result_bind] at came
  cases found : x.result with
  | error other =>
    rw [found] at came
    obtain rfl := Except.error.inj came
    exact first _ found
  | ok a =>
    rw [found] at came
    exact rest a _ came

/-- For a trial whose first step is taken in some cases only. -/
theorem guarded {c : Prop} [Decidable c] {x : Trial Unit} {f : Unit → Trial β} (first : FailsIn P x)
    (rest : FailsIn P (f ())) : FailsIn P (if c then x >>= f else f ()) := by
  split
  · exact first.bind fun _ => rest
  · exact rest

end FailsIn
end Trial

/-! ### Subjects -/

namespace Subject

open Trial

/-- A subject that is not accepted is a matter of validation. -/
theorem failsIn_validate (settings : Settings) (subject : Value) :
    FailsIn (·.family? = some .validation) (validate settings subject) := by
  have member (key value : Value) :
      FailsIn (·.family? = some .validation) (validateMember settings key value) := by
    refine FailsIn.guarded (.throw rfl) ?_
    cases value with
    | text s =>
      refine FailsIn.guarded (.throw rfl) ?_
      split
      · exact .note
      · exact .pure
    | _ => exact .pure
  have all (members : List (Value × Value)) :
      FailsIn (·.family? = some .validation) (validateMembers settings members) := by
    induction members with
    | nil => exact .pure
    | cons m rest ih => exact (member m.1 m.2).bind fun _ => ih
  cases subject with
  | map members => exact all members
  | _ => exact .throw rfl

end Subject

/-! ### The engine -/

open Trial

/-- What follows cannot fail. -/
theorem error_of_bind {α β : Type} {x : Except Failure α} {f : α → β} {failure : Failure}
    (came : (x >>= fun a => .ok (f a)) = .error failure) : x = .error failure := by
  cases x with
  | ok a => cases came
  | error other => exact congrArg Except.error (Except.error.inj came)

theorem strange_of_requireText {field : String} {v : Value} {failure : Failure}
    (came : requireText field v = .error failure) : failure.Strange := by
  cases v with
  | text s => cases came
  | _ =>
    obtain rfl := Except.error.inj came
    rfl

namespace Cluster

theorem strange_of_tag? {rule : Rule} {failure : Failure} (came : tag? rule = .error failure) :
    failure.Strange := by
  unfold tag? at came
  split at came
  · cases came
  · split at came
    · cases came
    · obtain rfl := Except.error.inj came
      rfl

theorem failsIn_extend (rules : List Rule) (number : Nat) (current : String) (opened : Group) :
    FailsIn Failure.Strange (extend number current opened rules) := by
  induction rules generalizing number current opened with
  | nil => exact .pure
  | cons rule rest ih =>
    refine (FailsIn.ofExcept fun _ => strange_of_tag?).bind fun tag => ?_
    split
    · exact FailsIn.ofNoted.bind fun next => FailsIn.bind (ih _ _ next) fun _ => .pure
    · exact ih _ _ _

theorem failsIn_ofRules (rules : List Rule) : FailsIn Failure.Strange (ofRules rules) := by
  unfold ofRules
  split
  · exact .pure
  · split
    · exact .pure
    · cases rules with
      | nil => exact .pure
      | cons rule rest =>
        refine (FailsIn.ofExcept fun _ => strange_of_tag?).bind fun tag => ?_
        exact FailsIn.ofNoted.bind fun first => failsIn_extend rest _ _ first

end Cluster

namespace Rule

theorem strange_of_failed {rule : Rule} {actual : Value} {error : String} {failure : Failure}
    (came : rule.failed actual error = .error failure) : failure.Strange :=
  strange_of_requireText (error_of_bind came)

theorem failsIn_checkClosed (rule : Rule) (subject : Value) :
    FailsIn Failure.Strange (rule.checkClosed subject) := by
  refine FailsIn.ofNoted.bind fun outcome => ?_
  split
  · exact .pure
  · exact FailsIn.note.bind fun _ => FailsIn.ofExcept fun _ => strange_of_failed

end Rule

namespace Group

theorem failsIn_evaluate (group : Group) (subject : Value) :
    FailsIn Failure.Strange (group.evaluate subject) := by
  have all (rules : List Rule) : FailsIn Failure.Strange (outcomes subject rules) := by
    induction rules with
    | nil => exact .pure
    | cons rule rest ih =>
      exact (rule.failsIn_checkClosed subject).bind fun _ => ih.bind fun _ => .pure
  refine (all _).bind fun results => FailsIn.guarded .note ?_
  exact FailsIn.ofExcept fun _ came => strange_of_requireText (error_of_bind came)

end Group

namespace Criteria

variable {criteria : Criteria} {settings : Settings}

theorem strange_of_resultId {failure : Failure} (came : criteria.resultId = .error failure) :
    failure.Strange := by
  unfold resultId at came
  split at came
  · cases came
  · exact strange_of_requireText (error_of_bind came)

theorem failsIn_thresholdInForce :
    FailsIn Failure.Strange (criteria.thresholdInForce settings) := by
  unfold thresholdInForce
  split
  · exact .pure
  · split
    · exact .pure
    · exact .throw rfl
    · exact FailsIn.note.bind fun _ => .pure

theorem failsIn_groupsInForce : FailsIn Failure.Strange criteria.groupsInForce := by
  unfold groupsInForce
  split
  · exact Cluster.failsIn_ofRules _
  · split
    · exact .pure
    · exact FailsIn.note.bind fun _ => .pure

/-- **What fails the engine is of no family.** -/
theorem failsIn_evaluate (criteria : Criteria) (settings : Settings) (subject : Value) :
    FailsIn Failure.Strange (criteria.evaluate settings subject) := by
  have all (groups : List Group) : FailsIn Failure.Strange (outcomes subject groups) := by
    induction groups with
    | nil => exact .pure
    | cons group rest ih =>
      exact (group.failsIn_evaluate subject).bind fun _ => ih.bind fun _ => .pure
  refine failsIn_groupsInForce.bind fun groups => FailsIn.ofNoted.bind fun method => ?_
  refine failsIn_thresholdInForce.bind fun threshold => ?_
  split
  · refine FailsIn.note.bind fun _ => FailsIn.ofExcept fun _ came => ?_
    exact strange_of_resultId (error_of_bind came)
  · refine (all groups).bind fun results => FailsIn.guarded .note ?_
    refine FailsIn.bind (FailsIn.ofExcept fun _ came => ?_) fun e =>
      FailsIn.note.bind fun _ => .pure
    exact strange_of_resultId (error_of_bind came)

end Criteria

namespace Service

theorem strange_of_keyOf {settings : Settings} {criteria : Criteria} {subject : Value}
    {failure : Failure} (came : keyOf settings criteria subject = .error failure) :
    failure.Strange := by
  unfold keyOf at came
  split at came
  · cases came
  · obtain rfl := Except.error.inj came
    rfl

end Service

theorem Evaluation.strange_of_stored {e : Evaluation} {failure : Failure}
    (came : e.stored = .error failure) : failure.Strange := by
  unfold stored at came
  split at came
  · cases came
  · obtain rfl := Except.error.inj came
    rfl

end Eligibility
