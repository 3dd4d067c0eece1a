/-
# Values

What a subject's fields, a rule's operands and a record's contents can be.  Subjects come from
callers who mix numbers of three kinds, texts, dates and nested collections, so one type with a
case for each is the domain here.  Maps keep the order of their members, and `missing` stands
for a field that a subject does not have, which is not the same as a field that holds `null`.

These are the kinds of plain data.  Collections with an equality of their own, such as maps that
are equal only in the same order or multisets, are left out, and so is every other kind of object.
Texts are lists of Unicode scalar values.  Values nest to any depth, and integers have any number
of digits, in a text as well: what a machine allows of calls within calls, or of digits in a
numeral, is no part of the model.
-/

import Eligibility.Decimal
import Eligibility.Calendar.Moment

namespace Eligibility

/-- A dynamic value. -/
inductive Value where
  | null
  | missing
  | bool (b : Bool)
  | int (n : Int)
  | double (x : Double)
  | decimal (d : Decimal)
  | text (s : String)
  | bytes (data : List UInt8)
  | date (d : Date)
  | moment (m : Moment)
  | clock (c : Clock) (offset : Option Offset)
  | list (items : List Value)
  | tuple (items : List Value)
  | set (items : List Value)
  | frozenSet (items : List Value)
  | map (members : List (Value × Value))

namespace Value

instance : Inhabited Value := ⟨null⟩

/-- Whether this is the mark of an absent field. -/
def isMissing : Value → Bool
  | missing => true
  | _ => false

/-- Whether this is `null`. -/
def isNull : Value → Bool
  | null => true
  | _ => false

/-- An absent field taken as `null`, any other value as it is. -/
def present : Value → Value
  | missing => null
  | v => v

/-- The text that the value is. -/
def asText? : Value → Option String
  | text s => some s
  | _ => none

/-- The members of a map. -/
def members? : Value → Option (List (Value × Value))
  | map members => some members
  | _ => none

/-- The items of a list or a tuple. -/
def sequence? : Value → Option (List Value)
  | list items => some items
  | tuple items => some items
  | _ => none

/-- The items of a list, a tuple or a set of either kind. -/
def collection? : Value → Option (List Value)
  | list items => some items
  | tuple items => some items
  | set items => some items
  | frozenSet items => some items
  | _ => none

/-- The name of the value's kind. -/
def kindName : Value → String
  | null => "NoneType"
  | missing => "_Missing"
  | bool _ => "bool"
  | int _ => "int"
  | double _ => "float"
  | decimal _ => "Decimal"
  | text _ => "str"
  | bytes _ => "bytes"
  | date _ => "date"
  | moment _ => "datetime"
  | clock .. => "time"
  | list _ => "list"
  | tuple _ => "tuple"
  | set _ => "set"
  | frozenSet _ => "frozenset"
  | map _ => "dict"

/-- The name of the value's kind behind that of the family that it belongs to, if any. -/
def qualifiedKindName : Value → String
  | decimal _ => "decimal.Decimal"
  | date _ => "datetime.date"
  | moment _ => "datetime.datetime"
  | clock .. => "datetime.time"
  | v => v.kindName

/-- Whether the value counts as true: every value does except `null`, a missing field, `false`,
a zero and anything empty. -/
def isTruthy : Value → Bool
  | null => false
  | missing => false
  | bool b => b
  | int n => n != 0
  | double x => !x.eq Double.zero
  | decimal d => !d.isZero
  | text s => !s.isEmpty
  | bytes data => !data.isEmpty
  | date _ => true
  | moment _ => true
  | clock .. => true
  | list items => !items.isEmpty
  | tuple items => !items.isEmpty
  | set items => !items.isEmpty
  | frozenSet items => !items.isEmpty
  | map members => !members.isEmpty

end Value
end Eligibility
