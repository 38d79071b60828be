import TimeWindow.Text.Basic

set_option autoImplicit false

/-!
# The named parts of an interval

Failures name what they are about: which of the two integer fields, which end, which kind of
interval. The names here are those of the persisted form and of the published vocabulary.

## Main definitions

* `TimeWindow.Field` — the start field and the duration field, persisted as `a` and `b`.
* `TimeWindow.Edge` — the two instants an interval can be built from.
* `TimeWindow.Kind` — plain intervals, and intervals that carry a label as well.
-/

namespace TimeWindow

/-- A **field** of the persisted form. -/
inductive Field where
  /-- The start, in nanoseconds since the epoch. -/
  | start
  /-- The signed duration, in nanoseconds. -/
  | duration
deriving DecidableEq

/-- The key a field is persisted under. The keys are part of the format. -/
def Field.key : Field → Text
  | .start => "a"
  | .duration => "b"

/-- An **edge**: one of the two instants that bound an interval. -/
inductive Edge where
  | start
  | finish
deriving DecidableEq

/-- The word for an edge. -/
def Edge.word : Edge → Text
  | .start => "start"
  | .finish => "end"

/-- The **kind** of an interval: with or without a label. -/
inductive Kind where
  | plain
  | labeled
deriving DecidableEq

/-- The published name of a kind. -/
def Kind.name : Kind → Text
  | .plain => "Interval"
  | .labeled => "LabeledInterval"

end TimeWindow
