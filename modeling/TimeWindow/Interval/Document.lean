import TimeWindow.Interval.Row
import TimeWindow.Json.Reading.Document

set_option autoImplicit false

/-!
# Interval documents

Intervals are kept as JSON documents: one interval as an object, several as an array of objects.
Documents are written without blanks; any JSON that denotes intervals is read, as text or as bytes
in any of the encodings of JSON.

## Main definitions

* `TimeWindow.Interval.toDocument`, `TimeWindow.Interval.listToDocument` — the document of one
  interval, and of several.
* `TimeWindow.Interval.ofDocument`, `TimeWindow.Interval.listOfDocument` — the interval and the
  intervals of a document.
-/

namespace TimeWindow

/-! ## Writing -/

/-- The document of a row. -/
def Row.document (r : Row) : Text :=
  Text.concat ["\x7b\"a\":", Numeral.int r.start, ",\"b\":", Numeral.int r.duration, "\x7d"]

/-- The document of rows, in order. -/
def Row.listDocument (rows : List Row) : Text :=
  Text.concat ["[", Text.separated "," (rows.map document), "]"]

namespace Interval

/-- The **document of an interval**. -/
def toDocument (i : Interval) : Except Failure Text := do
  let row ← i.toRow
  return row.document

/-- The **document of intervals**, in order. -/
def listToDocument (intervals : List Interval) : Except Failure Text := do
  let rows ← intervals.mapM toRow
  return Row.listDocument rows

end Interval

/-! ## Reading -/

/-- The value of a document, which is text or bytes. -/
def Value.readDocument : Value → Except Failure Value
  | .text t => ((Json.ofText t).mapError .document).map Json.toValue
  | .bytes bs | .buffer bs => ((Json.ofBytes bs).mapError .document).map Json.toValue
  | v => .error (.notDocument v.typeName)

namespace Interval

/-- The **interval of a document**, of a given kind. -/
def ofDocument (kind : Kind) (document : Value) : Except Failure Interval := do
  let payload ← document.readDocument
  ofPayload kind payload

/-- The intervals of payloads, in order; a payload that is none is named by its index. -/
def ofPayloads : (index : Nat) → List Value → Except Failure (List Interval)
  | _, [] => .ok []
  | index, payload :: rest => do
    let i ←
      match ofPayload .plain payload with
      | .ok i => .ok i
      | .error failure =>
        .error (if failure.category = .undecodable then .element index failure else failure)
    let others ← ofPayloads (index + 1) rest
    return i :: others

/-- The **intervals of a document**, which is an array of payloads. -/
def listOfDocument (document : Value) : Except Failure (List Interval) := do
  let payload ← document.readDocument
  match payload with
  | .list items => ofPayloads 0 items
  | v => throw (.notArray v.typeName)

end Interval

end TimeWindow
