/-
# Fields of a subject

A rule names a field of the subject by a path: keys of nested maps and places in lists, with
points between them.  A key of the subject that is spelled like the whole path comes first.  A
place in a list counts from zero, or from the end when it is negative.  What is not there is
`missing`; so is everything when the path is empty or the subject is no map.
-/

import Eligibility.Text.Numeral
import Eligibility.Value.Equal

namespace Eligibility
namespace Field

/-- The segments of a path: what stands between its points. -/
def segmentsOf : List Char → List (List Char)
  | [] => [[]]
  | c :: rest =>
    if c = '.' then [] :: segmentsOf rest
    else
      match segmentsOf rest with
      | first :: others => (c :: first) :: others
      | [] => [[c]]

/-- The segments of a path. -/
def segments (path : String) : List String := (segmentsOf path.toList).map String.ofList

/-- The item at a place, counted from the end when it is negative. -/
def item? (items : List Value) (place : Int) : Option Value :=
  if place ≥ 0 then items[place.toNat]?
  else if -place ≤ items.length then items[items.length - (-place).toNat]?
  else none

/-- One step along a path. -/
def step? (v : Value) (segment : String) : Option Value :=
  match v with
  | .map members => Value.find? members segment
  | .list items => Text.integer? segment >>= item? items
  | .tuple items => Text.integer? segment >>= item? items
  | _ => none

/-- The value that segments lead to. -/
def walk? : Value → List String → Option Value
  | v, [] => some v
  | v, segment :: rest => step? v segment >>= (walk? · rest)

/-- The value of a field. -/
def resolve (subject : Value) (path : String) : Value :=
  match subject with
  | .map members =>
    if path.isEmpty then .missing
    else
      match Value.find? members path with
      | some v => v
      | none => (walk? subject (segments path)).getD .missing
  | _ => .missing

theorem resolve_of_not_map {subject : Value} (h : subject.members? = none) (path : String) :
    resolve subject path = .missing := by
  cases subject <;> first | rfl | simp [Value.members?] at h

end Field
end Eligibility
