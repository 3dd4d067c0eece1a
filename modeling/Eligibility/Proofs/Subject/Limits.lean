/-
# Which subjects are accepted

A subject is refused exactly when it is no map, or some name in it has more characters than a name
may have, or some text among its values more than a text may have; a length that equals its limit is
accepted.  Members are looked at in order, the name of each before its value, and the failure tells
of the first one that is over a limit (`Subject.refused_exactly`).

A member is judged by its name, by whether its value is a text, and by how long that text is
(`Subject.flaw?_of_alike`).  So what is nested in a value makes no difference, nor does what a text
says: one that looks like an attack is noted and accepted.
-/

import Eligibility.Proofs.Trial
import Eligibility.Subject.Validation

namespace Eligibility
namespace Subject

variable {settings : Settings} {m n : Value × Value} {field : String} {failure : Failure}

/-- A member within the limits. -/
structure Fits (settings : Settings) (m : Value × Value) : Prop where
  name : (m.1.display.length : Int) ≤ settings.maxFieldLength
  text : ∀ s, m.2 = .text s → (s.length : Int) ≤ settings.maxValueLength

/-- A member over a limit, the name that it is reported under, and the failure.  Of a name that is
too long only the first characters are told. -/
inductive Breaks (settings : Settings) : Value × Value → (field : String) → Failure → Prop
  | name {key value : Value} (long : settings.maxFieldLength < key.display.length) :
      Breaks settings (key, value) (truncated key.display 50)
        (.fieldTooLong (truncated key.display 50) settings.maxFieldLength)
  | text {key : Value} {s : String} (named : (key.display.length : Int) ≤ settings.maxFieldLength)
      (long : settings.maxValueLength < s.length) :
      Breaks settings (key, .text s) key.display (.valueTooLong key.display settings.maxValueLength)

/-- A member over a limit is a matter of validation, and its name is among the details. -/
theorem Breaks.told (breaks : Breaks settings m field failure) :
    failure.family? = some .validation ∧ failure.details.lookup "field" = some (.text field) := by
  cases breaks with
  | name => exact ⟨rfl, rfl⟩
  | text => exact ⟨rfl, rfl⟩

theorem exceeds_iff {s : String} {limit : Int} : exceeds s limit = true ↔ limit < s.length := by
  simp [exceeds]

/-! ### One member -/

/-- What a member is refused for. -/
def flaw? (settings : Settings) (m : Value × Value) : Option Failure :=
  if exceeds m.1.display settings.maxFieldLength then
    some (.fieldTooLong (truncated m.1.display reportedLength) settings.maxFieldLength)
  else
    match m.2.asText? with
    | some s =>
      if exceeds s settings.maxValueLength then
        some (.valueTooLong m.1.display settings.maxValueLength)
      else none
    | none => none

/-- What checking comes to, given what is refused. -/
def verdict : Option Failure → Except Failure Unit
  | some failure => .error failure
  | none => .ok ()

/-- An attack is noted and makes no difference. -/
theorem result_validateMember (settings : Settings) (key value : Value) :
    (validateMember settings key value).result = verdict (flaw? settings (key, value)) := by
  unfold validateMember flaw?
  by_cases name : exceeds key.display settings.maxFieldLength = true
  · simp only [name, if_true]
    rfl
  · simp only [name, Bool.false_eq_true, if_false]
    cases value with
    | text s =>
      by_cases long : exceeds s settings.maxValueLength = true
      · simp only [long, if_true, Value.asText?]
        rfl
      · simp only [long, Bool.false_eq_true, if_false, Value.asText?]
        split <;> rfl
    | _ => rfl

theorem flaw?_eq_none : flaw? settings m = none ↔ Fits settings m := by
  obtain ⟨key, value⟩ := m
  unfold flaw?
  by_cases name : exceeds key.display settings.maxFieldLength = true
  · rw [if_pos name]
    rw [exceeds_iff] at name
    exact ⟨nofun, fun fits => absurd fits.name (Int.not_le.2 name)⟩
  · rw [if_neg name]
    rw [exceeds_iff] at name
    cases value with
    | text s =>
      by_cases long : exceeds s settings.maxValueLength = true
      · simp only [Value.asText?, long, if_true]
        rw [exceeds_iff] at long
        exact ⟨nofun, fun fits => absurd (fits.text s rfl) (Int.not_le.2 long)⟩
      · simp only [Value.asText?, long, Bool.false_eq_true, if_false, true_iff]
        rw [exceeds_iff] at long
        refine ⟨Int.not_lt.1 name, fun t same => ?_⟩
        obtain rfl := Value.text.inj same
        exact Int.not_lt.1 long
    | _ => exact ⟨fun _ => ⟨Int.not_lt.1 name, nofun⟩, fun _ => rfl⟩

theorem not_fits_iff : ¬Fits settings m ↔ settings.maxFieldLength < m.1.display.length ∨
    ∃ s, m.2 = .text s ∧ settings.maxValueLength < s.length := by
  constructor
  · intro unfit
    by_contra within
    simp only [not_or, not_exists, not_and, Int.not_lt] at within
    exact unfit ⟨within.1, within.2⟩
  · rintro (long | ⟨s, same, long⟩) fits
    · exact absurd fits.name (Int.not_le.2 long)
    · exact absurd (fits.text s same) (Int.not_le.2 long)

theorem breaks_of_flaw? (flaw : flaw? settings m = some failure) :
    ∃ field, Breaks settings m field failure := by
  obtain ⟨key, value⟩ := m
  unfold flaw? at flaw
  split at flaw
  · next name =>
    obtain rfl := Option.some.inj flaw
    exact ⟨_, .name (exceeds_iff.1 name)⟩
  · next name =>
    rw [exceeds_iff] at name
    cases value with
    | text s =>
      dsimp only [Value.asText?] at flaw
      split at flaw
      · next long =>
        obtain rfl := Option.some.inj flaw
        exact ⟨_, .text (Int.not_lt.1 name) (exceeds_iff.1 long)⟩
      · cases flaw
    | _ => cases flaw

/-! ### All members -/

theorem result_validateMembers (settings : Settings) (members : List (Value × Value)) :
    (validateMembers settings members).result =
      verdict (members.findSome? (flaw? settings)) := by
  induction members with
  | nil => rfl
  | cons m rest ih =>
    rw [validateMembers, Trial.result_bind, result_validateMember, List.findSome?_cons]
    cases flaw? settings (m.1, m.2) with
    | none => exact ih
    | some failure => rfl

/-- Only a map with members is looked into. -/
theorem result_validate_of_not_map {subject : Value} (other : ∀ members, subject ≠ .map members) :
    (validate settings subject).result = .error (.subjectNotMap subject.kindName) := by
  cases subject with
  | map members => exact absurd rfl (other members)
  | _ => rfl

theorem verdict_eq_error {refused? : Option Failure} :
    verdict refused? = .error failure ↔ refused? = some failure := by
  cases refused? <;> simp [verdict]

/-! ### Values that are judged alike -/

/-- Two values that checking does not tell apart: texts of one length, or no texts at all. -/
inductive Alike : Value → Value → Prop
  | texts {s t : String} (same : s.length = t.length) : Alike (.text s) (.text t)
  | others {v w : Value} (plain : v.asText? = none) (plain' : w.asText? = none) : Alike v w

/-- **A member is judged by its name and by how long its text is.** -/
theorem flaw?_of_alike (name : m.1 = n.1) (alike : Alike m.2 n.2) :
    flaw? settings m = flaw? settings n := by
  obtain ⟨key, v⟩ := m
  obtain ⟨key', w⟩ := n
  obtain rfl : key = key' := name
  cases alike with
  | @texts s t same =>
    have long : exceeds s settings.maxValueLength = exceeds t settings.maxValueLength := by
      rw [exceeds, exceeds, same]
    simp only [flaw?, Value.asText?, long]
  | others plain plain' =>
    dsimp only at plain plain'
    simp only [flaw?, plain, plain']

theorem findSome?_of_alike {members others : List (Value × Value)}
    (alike : List.Forall₂ (fun m n => m.1 = n.1 ∧ Alike m.2 n.2) members others) :
    members.findSome? (flaw? settings) = others.findSome? (flaw? settings) := by
  induction alike with
  | nil => rfl
  | cons own _ ih => rw [List.findSome?_cons, List.findSome?_cons, ih, flaw?_of_alike own.1 own.2]

/-! ### Subjects -/

/-- **What is refused, and what for.**  A subject is refused exactly when it is no map or has a name
or a text that is over its limit.  The failure is one of validation; for a map it is that of the
first member over a limit, whose name it tells.  Values that are no texts may be replaced by others,
and texts by others of their length. -/
theorem refused_exactly (settings : Settings) (subject : Value) :
    ((∃ failure, (validate settings subject).result = .error failure) ↔
      (∀ members, subject ≠ .map members) ∨
        ∃ members, subject = .map members ∧ ∃ m ∈ members,
          settings.maxFieldLength < m.1.display.length ∨
            ∃ s, m.2 = .text s ∧ settings.maxValueLength < s.length) ∧
    (∀ failure, (validate settings subject).result = .error failure →
      failure.family? = some .validation ∧
        ((∀ members, subject ≠ .map members) ∧ failure = .subjectNotMap subject.kindName ∨
          ∃ before m after field, subject = .map (before ++ m :: after) ∧
            (∀ earlier ∈ before, Fits settings earlier) ∧ Breaks settings m field failure ∧
            failure.details.lookup "field" = some (.text field))) ∧
    ∀ members others, subject = .map members →
      List.Forall₂ (fun m n => m.1 = n.1 ∧ Alike m.2 n.2) members others →
        (validate settings (.map others)).result = (validate settings subject).result := by
  by_cases isMap : ∃ members, subject = .map members
  case neg =>
    have other (members : List (Value × Value)) : subject ≠ .map members :=
      fun same => isMap ⟨members, same⟩
    have refused : (validate settings subject).result = .error (.subjectNotMap subject.kindName) :=
      result_validate_of_not_map other
    refine ⟨⟨fun _ => .inl other, fun _ => ⟨_, refused⟩⟩, fun failure came => ?_,
      fun members _ same => absurd same (other members)⟩
    obtain rfl := Except.error.inj (refused.symm.trans came)
    exact ⟨rfl, .inl ⟨other, rfl⟩⟩
  case pos =>
    obtain ⟨members, rfl⟩ := isMap
    have came (members : List (Value × Value)) : (validate settings (.map members)).result =
        verdict (members.findSome? (flaw? settings)) := result_validateMembers settings members
    refine ⟨?exactly, fun failure refused => ?first, fun _ others same alike => ?alike⟩
    case exactly =>
      have refused : (∃ failure, (validate settings (.map members)).result = .error failure) ↔
          ∃ m ∈ members, ¬Fits settings m := by
        simp only [came, verdict_eq_error, ← Option.ne_none_iff_exists', ne_eq,
          List.findSome?_eq_none_iff, flaw?_eq_none, Classical.not_forall, exists_prop]
      simp only [refused, not_fits_iff]
      refine ⟨fun broken => .inr ⟨members, rfl, broken⟩, ?_⟩
      rintro (other | ⟨_, same, broken⟩)
      · exact absurd rfl (other members)
      · rwa [Value.map.inj same]
    case first =>
      rw [came, verdict_eq_error] at refused
      obtain ⟨before, m, after, parts, flaw, fits⟩ := List.findSome?_eq_some_iff.1 refused
      obtain ⟨field, breaks⟩ := breaks_of_flaw? flaw
      exact ⟨breaks.told.1, .inr ⟨before, m, after, field, congrArg _ parts,
        fun earlier member => flaw?_eq_none.1 (fits earlier member), breaks, breaks.told.2⟩⟩
    case alike =>
      obtain rfl := Value.map.inj same
      rw [came, came, findSome?_of_alike alike]

end Subject
end Eligibility
