/-
# Equality of values

Numbers of every kind are equal when they are worth the same, and a boolean counts as one or
zero.  Lists, tuples and sets are equal item by item, sets of both kinds without regard to
order, maps member by member.  A list never equals a tuple, a date never equals a moment, and a
moment with an offset never equals one without.  Sets and maps are compared by inclusion both
ways, which for collections without repetition is equality of their contents.

A signaling NaN has no equality with numbers.  A comparison that comes upon one beside a number
cannot be answered; one that is settled before does not come upon it.
-/

import Eligibility.Value.Basic
import Eligibility.Quantity

namespace Eligibility
namespace Value

/-- The worth of a number; a boolean is worth one or zero. -/
def quantity? : Value → Option Quantity
  | bool b => some (.ofInt (if b then 1 else 0))
  | int n => some (.ofInt n)
  | double x => some (.ofDouble x)
  | decimal d => some (.ofDecimal d)
  | _ => none

/-- Moments are equal at one position in universal time; without offsets, when all their parts
agree. -/
def sameMoment (a b : Moment) : Bool :=
  match a.offset, b.offset with
  | none, none => decide (a = b)
  | some _, some _ => decide (a.toInstant.position = b.toInstant.position)
  | _, _ => false

/-- Clock times are equal when their distances from universal midnight agree; without offsets,
when all their parts do. -/
def sameClock (a b : Clock) : Option Offset → Option Offset → Bool
  | none, none => decide (a = b)
  | some p, some q => decide ((a.micros : Int) - p.micros = b.micros - q.micros)
  | _, _ => false

/-- Equality of values that are not collections. -/
def sameAtom (a b : Value) : Bool :=
  match a.quantity?, b.quantity? with
  | some x, some y => x.same y
  | _, _ =>
    match a, b with
    | null, null => true
    | missing, missing => true
    | text s, text t => s == t
    | bytes s, bytes t => s == t
    | date d, date e => decide (d = e)
    | moment m, moment n => sameMoment m n
    | clock c p, clock d q => sameClock c d p q
    | _, _ => false

mutual

/-- Equality of values. -/
def same : Value → Value → Bool
  | list xs, list ys => sameItems xs ys
  | tuple xs, tuple ys => sameItems xs ys
  | set xs, set ys => within xs ys && covers xs ys
  | set xs, frozenSet ys => within xs ys && covers xs ys
  | frozenSet xs, set ys => within xs ys && covers xs ys
  | frozenSet xs, frozenSet ys => within xs ys && covers xs ys
  | map ms, map ns => membersWithin ms ns && membersCover ms ns
  | list _, _ => false
  | tuple _, _ => false
  | set _, _ => false
  | frozenSet _, _ => false
  | map _, _ => false
  | a, b => sameAtom a b

/-- Items equal one by one. -/
def sameItems : List Value → List Value → Bool
  | [], [] => true
  | x :: xs, y :: ys => same x y && sameItems xs ys
  | _, _ => false

/-- Every item on the left equals one on the right. -/
def within : List Value → List Value → Bool
  | [], _ => true
  | x :: xs, ys => ys.any (same x ·) && within xs ys

/-- Every item on the right equals one on the left. -/
def covers (xs ys : List Value) : Bool := ys.all (anySame xs ·)

/-- Some item equals the value. -/
def anySame : List Value → Value → Bool
  | [], _ => false
  | x :: xs, y => same x y || anySame xs y

/-- Every member on the left equals one on the right, key and value. -/
def membersWithin : List (Value × Value) → List (Value × Value) → Bool
  | [], _ => true
  | (k, v) :: ms, ns => ns.any (fun n => same k n.1 && same v n.2) && membersWithin ms ns

/-- Every member on the right equals one on the left, key and value. -/
def membersCover (ms ns : List (Value × Value)) : Bool := ns.all (anyMember ms ·)

/-- Some member equals the given one, key and value. -/
def anyMember : List (Value × Value) → Value × Value → Bool
  | [], _ => false
  | (k, v) :: ms, n => (same k n.1 && same v n.2) || anyMember ms n

end

/-- Whether the value is a signaling NaN. -/
def isSignaling : Value → Bool
  | decimal d => d.isSignaling
  | _ => false

/-- Whether a signaling NaN stands beside a number. -/
def signalsAtom (a b : Value) : Bool :=
  a.quantity?.isSome && b.quantity?.isSome && (a.isSignaling || b.isSignaling)

mutual

/-- Whether the comparison of two values comes upon a signaling NaN beside a number.  Lists and maps
are looked into when they are equally long, tuples in any case; what is in a set never signals. -/
def signals : Value → Value → Bool
  | list xs, list ys => xs.length == ys.length && signalsItems xs ys
  | tuple xs, tuple ys => signalsItems xs ys
  | map ms, map ns => ms.length == ns.length && signalsMembers ms ns
  | a, b => signalsAtom a b

/-- Items are compared in order, up to the first that differ. -/
def signalsItems : List Value → List Value → Bool
  | x :: xs, y :: ys => signals x y || (same x y && signalsItems xs ys)
  | _, _ => false

/-- Members are compared with those of their keys in order, up to the first that differ. -/
def signalsMembers : List (Value × Value) → List (Value × Value) → Bool
  | [], _ => false
  | (k, v) :: ms, ns =>
    match ns.find? fun n => same k n.1 with
    | some n => signals v n.2 || (same v n.2 && signalsMembers ms ns)
    | none => false

end

/-- The items without those that equal an earlier one. -/
def distinct (items : List Value) : List Value :=
  items.foldl (fun kept item => if kept.any (same item ·) then kept else kept ++ [item]) []

/-- The members with one more: a key that is there already keeps its place and takes the new
value. -/
def putMember (members : List (Value × Value)) (key value : Value) : List (Value × Value) :=
  if members.any (fun m => same m.1 key) then
    members.map fun m => if same m.1 key then (m.1, value) else m
  else members ++ [(key, value)]

/-- The map of the pairs, a later pair replacing the value of an earlier one with its key. -/
def mapOf (pairs : List (Value × Value)) : Value :=
  map (pairs.foldl (fun members pair => putMember members pair.1 pair.2) [])

/-- The value under a text key. -/
def find? (members : List (Value × Value)) (key : String) : Option Value :=
  (members.find? fun m => match m.1 with | text s => s == key | _ => false).map (·.2)

end Value
end Eligibility
