/-
# Canonical form of a subject

Subjects that hold the same data have the same canonical text: the members of every map come in
the order of their keys, and values that JSON does not have are objects that name their kind.
The digest of the canonical text stands for the subject in the keys of stored results.

The keys of a map are compared before they are turned to text, so keys that cannot be compared
leave the subject without a canonical form; so does a key of a kind that JSON has no text for.
-/

import Eligibility.Digest
import Eligibility.Failure
import Eligibility.Insertion
import Eligibility.Json.Writer
import Eligibility.Value.Equal

namespace Eligibility

namespace Quantity

/-- A finite worth as a whole number of steps of `10 ^ place`. -/
def scaled (negative : Bool) (coefficient : Nat) (exponent place : Int) : Int :=
  let n : Int := (coefficient * Nat.pow 10 (exponent - place).toNat : Nat)
  if negative then -n else n

/-- Whether one quantity is below another; nothing is below a NaN or above it. -/
def lt : Quantity → Quantity → Bool
  | nan, _ => false
  | _, nan => false
  | infinite a, infinite b => a && !b
  | infinite a, finite .. => a
  | finite .., infinite b => !b
  | finite a m e, finite b n f =>
    let place := min e f
    decide (scaled a m e place < scaled b n f place)

end Quantity

namespace Canonical

/-- Whether one list of bytes comes before another. -/
def bytesLess : List UInt8 → List UInt8 → Bool
  | _, [] => false
  | [], _ :: _ => true
  | a :: as, b :: bs => if a = b then bytesLess as bs else decide (a < b)

/-- Whether one moment comes before another. Both have an offset or neither does. -/
def momentLess (a b : Moment) : Except CanonicalFault Bool :=
  match a.offset, b.offset with
  | none, none => .ok (decide (a.localMicros < b.localMicros))
  | some _, some _ => .ok (decide (a.toInstant.position < b.toInstant.position))
  | _, _ => .error (.mixedOffsets "datetime")

/-- Whether one clock time comes before another. Both have an offset or neither does. -/
def clockLess (a b : Clock) : Option Offset → Option Offset → Except CanonicalFault Bool
  | none, none => .ok (decide (a.micros < b.micros))
  | some p, some q => .ok (decide ((a.micros : Int) - p.micros < b.micros - q.micros))
  | _, _ => .error (.mixedOffsets "time")

/-- Whether a value is a decimal. -/
def isDecimal : Value → Bool
  | .decimal _ => true
  | _ => false

/-- Whether a quantity is no number. -/
def isNaN : Quantity → Bool
  | .nan => true
  | _ => false

mutual

/-- Whether one key of a map comes before another. -/
def less (a b : Value) : Except CanonicalFault Bool :=
  match a.quantity?, b.quantity? with
  | some x, some y =>
    if (isDecimal a || isDecimal b) && (isNaN x || isNaN y) then .error .decimalAgainstNaN
    else .ok (x.lt y)
  | _, _ =>
    match a, b with
    | .text s, .text t => .ok (decide (s < t))
    | .bytes s, .bytes t => .ok (bytesLess s t)
    | .date d, .date e => .ok (decide (d.ordinal < e.ordinal))
    | .moment m, .moment n => momentLess m n
    | .date _, .moment _ => .error .momentAgainstDate
    | .moment _, .date _ => .error .momentAgainstDate
    | .clock c p, .clock d q => clockLess c d p q
    | .tuple xs, .tuple ys => lessItems xs ys
    | _, _ => .error (.unordered a.qualifiedKindName b.qualifiedKindName)

/-- Whether one list of items comes before another: the first difference decides. -/
def lessItems : List Value → List Value → Except CanonicalFault Bool
  | _, [] => .ok false
  | [], _ :: _ => .ok true
  | x :: xs, y :: ys => if x.same y then lessItems xs ys else less x y

end

/-- Pairs in the order of their keys. -/
def sortByKey {α : Type} (pairs : List (Value × α)) : Except CanonicalFault (List (Value × α)) :=
  if pairs.all fun m => m.1.asText?.isSome then
    .ok (pairs.mergeSort fun a b => decide ((a.1.asText?.getD "") ≤ (b.1.asText?.getD "")))
  else Insertion.sort? (fun a b => less a.1 b.1) pairs

/-- The text of a key. -/
def keyText : Value → Except CanonicalFault String
  | .text s => .ok s
  | .bool b => .ok (if b then "true" else "false")
  | .null => .ok "null"
  | .int n => .ok (toString n)
  | .double x => .ok (String.ofList (Json.Style.ascii.writeDouble x))
  | v => .error (.badKey v.qualifiedKindName)

/-- The members of an object: keys and values in turn. -/
def object (pairs : List (Value × Except CanonicalFault Json)) :
    Except CanonicalFault (List (String × Json)) :=
  pairs.mapM fun (key, value) => do return (← keyText key, ← value)

/-- The object that stands for a value that JSON does not have. -/
def typed (v : Value) (shown : String) : Json :=
  .object [("__type__", .text v.kindName), ("value", .text shown)]

mutual

/-- The canonical tree of a value. -/
def tree : Value → Except CanonicalFault Json
  | .null => .ok .null
  | .bool b => .ok (.bool b)
  | .int n => .ok (.int n)
  | .double x => .ok (.double x)
  | .text s => .ok (.text s)
  | .list items => do return .array (← treeItems items)
  | .tuple items => do return .array (← treeItems items)
  | .map members => do return .object (← object (← sortByKey (treeMembers members)))
  | .date d => .ok (typed (.date d) d.isoText)
  | .moment m => .ok (typed (.moment m) m.isoText)
  | .clock c offset => .ok (typed (.clock c offset) (c.isoText ++ offsetText offset))
  | v => .ok (typed v v.quoted)

/-- The canonical trees of items. -/
def treeItems : List Value → Except CanonicalFault (List Json)
  | [] => .ok []
  | item :: rest => do return (← tree item) :: (← treeItems rest)

/-- The members of a map with the canonical trees of their values, in the map's own order. -/
def treeMembers : List (Value × Value) → List (Value × Except CanonicalFault Json)
  | [] => []
  | (key, value) :: rest => (key, tree value) :: treeMembers rest

end

/-- The canonical text of a value. -/
def text (v : Value) : Except CanonicalFault String := Json.asciiText <$> tree v

/-- The digest of the canonical text. -/
def digest (v : Value) : Except CanonicalFault String := Digest.ofAscii <$> text v

end Canonical
end Eligibility
