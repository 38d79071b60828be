import TimeWindow.Failure.Basic
import TimeWindow.Numeral.Basic

set_option autoImplicit false

/-!
# The digit limit

Integers of more than 4300 digits are not written: asking for one is a failure, also where the
text was to become part of the wording of another failure.

## Main definitions

* `TimeWindow.Numeral.digitLimit` — the greatest number of digits.
* `TimeWindow.Numeral.int?` — the numeral of an integer within the limit.
-/

namespace TimeWindow.Numeral

/-- The greatest number of digits that are written or read. -/
def digitLimit : Nat := 4300

/-- The numeral of an integer, or the failure that it has too many digits. -/
def int? (n : Int) : Except Failure Text :=
  if n.natAbs < Nat.pow 10 digitLimit then .ok (int n) else .error .digitLimit

end TimeWindow.Numeral
