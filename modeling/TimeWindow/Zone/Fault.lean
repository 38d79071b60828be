import TimeWindow.Text.Basic

set_option autoImplicit false

/-!
# Faults of zone keys

## Main definitions

* `TimeWindow.Zone.Fault` — why a key names no zone.
-/

namespace TimeWindow.Zone

/-- A **fault** of a zone key. Keys look like relative paths, and a key that is not one is refused
before it is looked up. -/
inductive Fault where
  /-- The key starts at the root. -/
  | absolute (key : Text)
  /-- The key has empty, `.` or inner `..` parts, or is empty. -/
  | unnormalized (key : Text)
  /-- The key leads out of the zones. -/
  | outside (key : Text)
  /-- No zone has the key. -/
  | unknown (key : Text)
  /-- The last part of the key holds the code point zero, which no name of a zone can hold. -/
  | zeroInName
deriving DecidableEq

end TimeWindow.Zone
