import TimeWindow.Text.Basic

set_option autoImplicit false

/-!
# Guides and published names

The library is published with two guide texts, an introduction and a reference, and with a fixed
list of names.

## Main definitions

* `TimeWindow.Guide.names` — the published names.
* `TimeWindow.Guide.find?` — the guide with a given title.
-/

namespace TimeWindow.Guide

/-- The **published names**, in order. -/
def names : List String :=
  ["DAY", "DecodeError", "HOUR", "Interval", "MICROSECOND", "MILLISECOND", "MINUTE",
    "NANOSECOND", "RangeError", "SECOND", "WEEK", "decode", "docs", "dumps", "dumps_many",
    "encode", "format_duration", "format_instant", "from_columns", "interval", "loads",
    "loads_many", "now", "parse_instant", "to_columns"]

/-- The lines of the introduction. -/
def introduction : List String :=
  ["# nanointerval",
    "",
    "A compact time-interval value: `Interval(a=<start ns since epoch>, b=<duration ns>)`.",
    "",
    "```python",
    "from datetime import datetime, timezone",
    "from nanointerval import Interval, interval, SECOND",
    "",
    "noon = datetime(2023, 1, 1, 12, tzinfo=timezone.utc)",
    "ivl = Interval.at(noon, 5 * SECOND)",
    "",
    "ivl.start      # 1672574400000000000",
    "ivl.duration   # 5000000000",
    "ivl.end        # 1672574405000000000",
    "ivl.to_json()  # '\x7b\"a\":1672574400000000000,\"b\":5000000000\x7d'",
    "print(ivl)     # Interval(2023-01-01T12:00:00Z→2023-01-01T12:00:05Z, 5s)",
    "```",
    "",
    "Instants are `int` nanoseconds since the Unix epoch or timezone-aware",
    "`datetime`s. Use `parse_instant()` for RFC 3339 text with nanosecond fractions.",
    "",
    "Intervals are frozen, slotted dataclasses: equal when `(a, b)` are equal,",
    "hashable, and never mutated. Negative durations are kept exactly as given."]

/-- The lines of the reference. -/
def reference : List String :=
  ["# API",
    "",
    "## `Interval`",
    "",
    "- `Interval(a=..., b=...)`: canonical constructor, no validation.",
    "- `Interval.between(start, end)` / `interval(start, end)`: from two instants.",
    "- `Interval.at(start, duration)`: from an instant and an `int`/`timedelta` duration.",
    "- `.start`, `.end`, `.duration`: integer nanoseconds. `.end` is the exact `a + b`.",
    "- `.start_datetime(tz=\"UTC\")`, `.end_datetime(tz=\"UTC\")`, `.as_timedelta()`:",
    "  standard-library views, floored to microseconds.",
    "- `.to_dict()`, `.from_dict()`, `.to_json()`, `.from_json()`: codec shortcuts.",
    "",
    "## Codec",
    "",
    "- `encode(i) -> \x7b\"a\": int, \"b\": int\x7d`; raises `RangeError` outside int64 and",
    "  `TypeError` for `bool` or non-integer fields.",
    "- `decode(obj, cls=Interval)`; raises `DecodeError` on a non-object payload or a",
    "  missing, non-integer, or out-of-range `a`/`b`. Unknown keys are ignored.",
    "- `dumps(i)`, `loads(text)`: compact JSON (`\x7b\"a\":123,\"b\":456\x7d`).",
    "- `dumps_many(items)`, `loads_many(text)`: JSON arrays of interval objects.",
    "- `to_columns(items) -> (array('q'), array('q'))`, `from_columns(a, b)`.",
    "",
    "## Instants",
    "",
    "- `parse_instant(text)`, `format_instant(ns)`: RFC 3339 with up to 9 fraction digits.",
    "- `format_duration(ns)`: compact text such as `1.987654321s`, `-5s`, `24h0m0s`.",
    "- `now()`: `time.time_ns()`.",
    "",
    "## Units",
    "",
    "`NANOSECOND`, `MICROSECOND`, `MILLISECOND`, `SECOND`, `MINUTE`, `HOUR`, `DAY`, `WEEK`",
    "(all in nanoseconds)."]

/-- A text of lines, each of which ends with a line feed. -/
def ofLines (lines : List String) : Text :=
  lines.flatMap fun line => Text.ofString line ++ [CodePoint.ofChar '\n']

/-- The **guide with a title**. -/
def find? (title : Text) : Option Text :=
  if title = Text.ofString "readme" then some (ofLines introduction)
  else if title = Text.ofString "api" then some (ofLines reference)
  else none

end TimeWindow.Guide
