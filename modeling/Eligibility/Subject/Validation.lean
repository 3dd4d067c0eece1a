/-
# Accepting subjects

A subject has to be a map whose top-level names and texts are not too long.  The members are
looked at in order, the name of each before its value.  A text that looks like an attack is noted
and accepted.
-/

import Eligibility.Noted
import Eligibility.Pattern.Reader
import Eligibility.Pattern.Search
import Eligibility.Settings.Basic

namespace Eligibility
namespace Subject

/-- What attacks look like. -/
def attackTexts : List String :=
  ["(?i)<\\s*script", "(?i)javascript\\s*:", "(?i)\\bunion\\b.+\\bselect\\b",
    "(?i);\\s*drop\\s+table", "\\.\\./"]

/-- The patterns of attacks. -/
def attacks : List Pattern := attackTexts.filterMap fun s => (Pattern.ofText s).toOption

/-- Whether a text looks like an attack. -/
def isSuspicious (s : String) : Bool := attacks.any (·.occursIn s)

/-- How much of a name that is too long is reported. -/
def reportedLength : Nat := 50

/-- The first characters of a text. -/
def truncated (s : String) (length : Nat) : String := String.ofList (s.toList.take length)

/-- Whether a text has more characters than a limit. -/
def exceeds (s : String) (limit : Int) : Bool := (s.length : Int) > limit

/-- Accept a member. -/
def validateMember (settings : Settings) (key value : Value) : Trial Unit := do
  let name := key.display
  if exceeds name settings.maxFieldLength then
    throw (.fieldTooLong (truncated name reportedLength) settings.maxFieldLength)
  match value with
  | .text s =>
    if exceeds s settings.maxValueLength then
      throw (.valueTooLong name settings.maxValueLength)
    if isSuspicious s then Trial.note .suspiciousValue
  | _ => return

/-- Accept members, in order. -/
def validateMembers (settings : Settings) : List (Value × Value) → Trial Unit
  | [] => return
  | (key, value) :: rest => do
    validateMember settings key value
    validateMembers settings rest

/-- Accept a subject. -/
def validate (settings : Settings) (subject : Value) : Trial Unit :=
  match subject with
  | .map members => validateMembers settings members
  | v => throw (.subjectNotMap v.kindName)

end Subject
end Eligibility
