/-
# Sorting by binary insertion

Where some items may not be comparable, the order that comes out depends on which comparisons
are made, so the sort is spelled out.  It takes the run in front, ascending or strictly
descending, turns a descending one round, and inserts the other items one by one, each behind
the last item that is not above it as far as binary search can tell.  A comparison may fail, and
then the sort does.
-/

namespace Eligibility
namespace Insertion

/-- The rest of a run, ascending or descending, after an item; and what follows the run. -/
def runAfter {ε α : Type} (lt : α → α → Except ε Bool) (descending : Bool) (previous : α) :
    List α → Except ε (List α × List α)
  | [] => .ok ([], [])
  | x :: rest => do
    if (← lt x previous) == descending then
      let (run, left) ← runAfter lt descending x rest
      return (x :: run, left)
    else return ([], x :: rest)

/-- The place at which an item is inserted, between two places of a sorted array. -/
def place {ε α : Type} (lt : α → α → Except ε Bool) (sorted : Array α) (x : α) (low high : Nat) :
    Except ε Nat := do
  if low < high then
    let middle := low + (high - low) / 2
    match sorted[middle]? with
    | some y =>
      if ← lt x y then place lt sorted x low middle else place lt sorted x (middle + 1) high
    | none => return low
  else return low
  termination_by high - low

/-- Insert an item at a place. -/
def insertAt {α : Type} (sorted : Array α) (place : Nat) (x : α) : Array α :=
  sorted.extract 0 place ++ #[x] ++ sorted.extract place sorted.size

/-- Insert items one by one. -/
def insertAll {ε α : Type} (lt : α → α → Except ε Bool) (sorted : Array α) :
    List α → Except ε (Array α)
  | [] => .ok sorted
  | x :: rest => do
    let index ← place lt sorted x 0 sorted.size
    insertAll lt (insertAt sorted index x) rest

/-- Sort a list by a comparison that may fail. -/
def sort? {ε α : Type} (lt : α → α → Except ε Bool) : List α → Except ε (List α)
  | [] => .ok []
  | [x] => .ok [x]
  | x :: y :: rest => do
    let descending ← lt y x
    let (run, left) ← runAfter lt descending y rest
    let front := x :: y :: run
    let sorted ← insertAll lt (if descending then front.reverse else front).toArray left
    return sorted.toList

/-- Sort a list by a comparison that always answers. -/
def sort {α : Type} (lt : α → α → Bool) (xs : List α) : List α :=
  match sort? (fun x y => (.ok (lt x y) : Except Empty Bool)) xs with
  | .ok sorted => sorted

end Insertion
end Eligibility
