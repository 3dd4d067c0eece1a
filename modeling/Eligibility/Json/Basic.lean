/-
# JSON

The tree of a JSON text.  Whole numbers and doubles are kept apart, and the members of an
object keep their order.
-/

import Eligibility.Double.Basic

namespace Eligibility

/-- A JSON tree. -/
inductive Json where
  | null
  | bool (b : Bool)
  | int (n : Int)
  | double (x : Double)
  | text (s : String)
  | array (items : List Json)
  | object (members : List (String × Json))

namespace Json

instance : Inhabited Json := ⟨null⟩

/-- The last member under a key. -/
def find? (members : List (String × Json)) (key : String) : Option Json :=
  (members.reverse.find? (·.1 == key)).map (·.2)

end Json
end Eligibility
