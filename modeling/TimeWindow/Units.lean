import TimeWindow.Text.Basic

set_option autoImplicit false

/-!
# Units and bounds

The units of time in nanoseconds, and the bounds of the integers that are persisted.

## Main definitions

* `TimeWindow.Units` — the units.
* `TimeWindow.fitsInt64` — whether an integer can be persisted.
* `TimeWindow.Units.published` — the constants by their published names.
-/

namespace TimeWindow

/-! ## Bounds -/

/-- The least integer of 64 bits. -/
def int64Min : Int := -9223372036854775808

/-- The greatest integer of 64 bits. -/
def int64Max : Int := 9223372036854775807

/-- An integer **fits in 64 bits**. -/
def fitsInt64 (n : Int) : Bool :=
  int64Min ≤ n && n ≤ int64Max

theorem fitsInt64_eq_true_iff {n : Int} : fitsInt64 n = true ↔ int64Min ≤ n ∧ n ≤ int64Max := by
  simp [fitsInt64]

/-! ## Units -/

namespace Units

def nanosecond : Int := 1
def microsecond : Int := 1000 * nanosecond
def millisecond : Int := 1000 * microsecond
def second : Int := 1000 * millisecond
def minute : Int := 60 * second
def hour : Int := 60 * minute
def day : Int := 24 * hour
def week : Int := 7 * day

/-- The constants by their **published names**. -/
def published : List (Text × Int) :=
  [("NANOSECOND", nanosecond), ("MICROSECOND", microsecond), ("MILLISECOND", millisecond),
    ("SECOND", second), ("MINUTE", minute), ("HOUR", hour), ("DAY", day), ("WEEK", week),
    ("INT64_MIN", int64Min), ("INT64_MAX", int64Max)]

end Units

end TimeWindow
