/-
# Values as instants

A rule compares dates as instants.  A moment without an offset, a date and an ISO 8601 text
without an offset are in universal time, a date at its midnight; a number counts seconds since
the start of 1970.  A `Z` at the end of a text stands for no offset from universal time.
-/

import Eligibility.Value.Number
import Eligibility.Calendar.Reading

namespace Eligibility
namespace Value

/-- The characters with a final `Z` written out as an offset of zero. -/
def expandZulu (cs : List Char) : List Char :=
  match cs.reverse with
  | c :: before => if c = 'Z' || c = 'z' then before.reverse ++ "+00:00".toList else cs
  | [] => []

/-- The instant that a text writes. -/
def instantOfText? (s : String) : Option Instant :=
  (Moment.ofChars? (expandZulu (Text.trimBy Text.isBlank s.toList))).map Moment.toInstant

/-- The instant that the value is or writes. -/
def instant? : Value → Except NumberFault (Option Instant)
  | moment m => .ok (some m.toInstant)
  | date d => .ok (some (Moment.ofDate d).toInstant)
  | text s => .ok (instantOfText? s)
  | v => do return (← v.number?) >>= Instant.ofEpoch?

end Value
end Eligibility
