import TimeWindow.Binary64.Arithmetic
import TimeWindow.Units
import TimeWindow.Value.Basic

set_option autoImplicit false

/-!
# Values between the bounds

The check whether a number fits in 64 bits compares it with both bounds, and so is defined for
numbers of any type and for no other values.

## Main definitions

* `TimeWindow.Value.fitsInt64` — the check.
-/

namespace TimeWindow

/-- A binary number is between the bounds: so are its neighbouring integers. -/
def Binary64.fitsInt64 (x : Binary64) : Bool :=
  match x.floor? with
  | none => false
  | some n => int64Min ≤ n && (if x.integer? = some n then n else n + 1) ≤ int64Max

/-- A value is a number **that fits in 64 bits**. -/
def Value.fitsInt64 : Value → Except Failure Bool
  | .float x => .ok x.fitsInt64
  | v =>
    match v.number? with
    | some n => .ok (TimeWindow.fitsInt64 n)
    | Option.none => .error (.unordered "<=" (Value.int 0).fullTypeName v.fullTypeName)

end TimeWindow
