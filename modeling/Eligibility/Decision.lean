/-
# Decisions

A decision table gives a label to every score: that of the greatest threshold that the score
reaches.  Thresholds are doubles, so `70` and `"70.0"` are one threshold, and a table has each
but once.  Its entries stand in descending order.
-/

import Eligibility.Failure
import Eligibility.Insertion

namespace Eligibility

/-- Thresholds with labels, the highest first, and a label for scores below all of them. -/
structure DecisionTable where
  entries : List (Double × String)
  fallback : Option String := none

namespace DecisionTable

/-- The number that a threshold is or writes. A number beyond every double is a failure of its
own. -/
def threshold (given : Value) : Except Failure Double :=
  match given.asDouble? with
  | .ok (some x) => .ok x
  | .error .integerTooLarge => .error (.number .integerTooLarge)
  | _ => .error (.thresholdNotNumeric given)

/-- Add pairs of threshold and label to entries, each threshold once. -/
def collect (known : List (Double × String)) :
    List (Value × Value) → Except Failure (List (Double × String))
  | [] => .ok known
  | (given, label) :: rest => do
    let x ← threshold given
    match known.find? fun entry => entry.1.eq x with
    | some (_, first) => .error (.duplicateThreshold x first label)
    | none => collect (known ++ [(x, label.display)]) rest

/-- The entries with the highest threshold first. A NaN has no place in the order; it stays
where binary insertion leaves it. -/
def descending (entries : List (Double × String)) : List (Double × String) :=
  if entries.any (·.1.isNaN) then
    (Insertion.sort (fun a b => a.1.lt b.1) entries.reverse).reverse
  else entries.mergeSort fun a b => b.1.le a.1

/-- The table of pairs of threshold and label. -/
def ofPairs (pairs : List (Value × Value)) (fallback : Option String) :
    Except Failure DecisionTable := do
  return ⟨descending (← collect [] pairs), fallback⟩

/-- The label of a score below every threshold. An empty one counts as none. -/
def fallbackLabel (table : DecisionTable) (default : String) : String :=
  match table.fallback with
  | some label => if label.isEmpty then default else label
  | none => default

/-- The label of a score: that of the first threshold it reaches. -/
def label (table : DecisionTable) (default : String) (score : Double) : String :=
  match table.entries.find? fun entry => entry.1.le score with
  | some (_, label) => label
  | none => table.fallbackLabel default

/-- The table that is used where none is given. -/
def builtIn : DecisionTable where
  entries := [(.ofNat 90, "Excellent"), (.ofNat 80, "Very Good"), (.ofNat 70, "Good"),
    (.ofNat 50, "Needs Improvement"), (.ofNat 30, "Poor")]

/-- Whether two tables have equal thresholds with the same labels, and the same fallback. -/
def same (a b : DecisionTable) : Bool :=
  sameEntries a.entries b.entries && a.fallback == b.fallback
where
  /-- Whether entries agree one by one. -/
  sameEntries : List (Double × String) → List (Double × String) → Bool
    | [], [] => true
    | (x, s) :: xs, (y, t) :: ys => x.eq y && s == t && sameEntries xs ys
    | _, _ => false

/-- A table as text. -/
def text (table : DecisionTable) : String :=
  let entries := Value.list (table.entries.map fun (x, label) => .tuple [.double x, .text label])
  let fallback :=
    match table.fallback with
    | some label => Value.text label
    | none => .null
  "ThresholdTable(" ++ entries.quoted ++ ", default_label=" ++ fallback.quoted ++ ")"

end DecisionTable
end Eligibility
