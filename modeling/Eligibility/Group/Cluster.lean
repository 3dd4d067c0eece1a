/-
# Clusters

Rules outside groups fall into clusters by their tags.  A tag that differs from the one in force
starts a cluster, which its rules and the untagged ones after it join; a rule before any tag
starts a cluster of which all rules have to pass.  Where no rule has a tag they are one group.
-/

import Eligibility.Group.Basic
import Eligibility.Noted
import Eligibility.Text.Case

namespace Eligibility
namespace Cluster

/-- The combinators that tags stand for. -/
def tags : List (String × Combinator) :=
  [("AND", .all), ("ALL", .all), ("OR", .any), ("ANY", .any), ("MAJORITY", .majority),
    ("NAND", .nand), ("NOR", .nor), ("XOR", .xor)]

/-- A tag without surrounding space and in upper case. -/
def normalized (tag : String) : String := Text.upper (Text.trim tag)

/-- The tag of a rule, when it has one. -/
def tag? (rule : Rule) : Except Failure (Option String) :=
  if !rule.tag.isTruthy then .ok none
  else
    match rule.tag with
    | .text s => .ok (some (normalized s))
    | v => .error (.tagNotText v.qualifiedKindName)

/-- The tag in force in a cluster that an untagged rule starts. -/
def untagged : String := "ALL"

/-- The tag in force in a cluster that a rule with this tag starts; a blank tag is none. -/
def inForce : Option String → String
  | some tag => if tag.isEmpty then untagged else tag
  | none => untagged

/-- How a cluster with a tag in force combines: as the tag says, or by the tag itself, which may
turn out to be no combinator. -/
def combination (tag : Option String) : Noted Value :=
  match tag with
  | none => return .text Combinator.all.text
  | some tag =>
    if tag.isEmpty then return .text Combinator.all.text
    else
      match tags.find? (·.1 == tag) with
      | some (_, combinator) => return .text combinator.text
      | none => do
        Noted.note .unknownTag
        return .text tag

/-- The cluster that a rule with this tag starts, as the given one in order. -/
def start (number : Nat) (tag : Option String) (rule : Rule) : Noted Group := do
  let combination ← combination tag
  return {
    groupId := .text s!"cluster_{number}"
    name := some (inForce tag ++ " cluster")
    combination := combination
    rules := [rule] }

/-- Whether a rule with this tag starts a cluster while another tag is in force. -/
def startsNew (tag : Option String) (current : String) : Bool :=
  match tag with
  | some tag => tag != current
  | none => false

/-- The clusters of rules that follow an open cluster, with that one first. -/
def extend (number : Nat) (current : String) (opened : Group) : List Rule → Trial (List Group)
  | [] => return [opened]
  | rule :: rest => do
    let tag ← Trial.ofExcept (tag? rule)
    if startsNew tag current then
      let next ← Trial.ofNoted (start (number + 1) tag rule)
      return opened :: (← extend (number + 1) (inForce tag) next rest)
    else extend number current { opened with rules := opened.rules ++ [rule] } rest

/-- The clusters of rules some of which are tagged. -/
def ofTagged : List Rule → Trial (List Group)
  | [] => return []
  | rule :: rest => do
    let tag ← Trial.ofExcept (tag? rule)
    let first ← Trial.ofNoted (start 1 tag rule)
    extend 1 (inForce tag) first rest

/-- The group of rules none of which is tagged. -/
def plain (rules : List Rule) : Group where
  groupId := .text "default"
  name := some "Default"
  rules := rules

/-- The clusters of rules. -/
def ofRules (rules : List Rule) : Trial (List Group) :=
  if rules.isEmpty then return []
  else if rules.all (!·.tag.isTruthy) then return [plain rules]
  else ofTagged rules

end Cluster
end Eligibility
