/-
# Doubles from text

A numeral of any length is read as the double nearest to its exact value.
-/

import Eligibility.Double.Basic
import Eligibility.Text.Numeral

namespace Eligibility
namespace Double

/-- The double nearest to a numeral. -/
def ofNumeral : Text.Numeral → Double
  | .number negative digits exponent => ofDecimal negative digits exponent
  | .infinite negative => .infinite negative
  | .nan => .nan

/-- The double nearest to the numeral that a text writes. -/
def ofText? (s : String) : Option Double := (Text.numeral? s).map ofNumeral

end Double
end Eligibility
