import TimeWindow.Session.Step

set_option autoImplicit false

/-!
# Productions of a session

A production makes a value from data or from the values in slots. The slots that it needs are
looked up first; then what is in them is used, in order.

## Main definitions

* `TimeWindow.Session.Changes.apply` — a copy of an interval with changes.
* `TimeWindow.Session.pickElement` — an element of a sequence.
* `TimeWindow.Session.Production.make` — the value that a production makes.
-/

namespace TimeWindow.Session

/-- A list of intervals as a value. -/
def listValue (intervals : List Interval) : Value :=
  .list (intervals.map Interval.toValue)

/-- The row of a value that should be an interval. -/
def rowOf (v : Value) : Except Failure Row := do
  let i ← asInterval v Field.start.key
  i.toRow

/-- The rows of the values in slots. All slots are looked up before the first value is. -/
def Slots.rows (slots : Slots) (names : List Text) : Except Failure (List Row) := do
  let values ← names.mapM slots.get
  values.mapM rowOf

/-- A copy of an interval with changes. -/
def Changes.apply (changes : Changes) (v : Value) : Except Failure Value :=
  match v.toInterval? with
  | none => .error .notReplaceable
  | some i => do
    let made ← Interval.build i.kind (changes.start.or (some i.start))
      (changes.duration.or (some i.duration)) (changes.label.or i.label)
    return made.toValue

/-- How a failure names a sequence that has no element at an index. -/
def sequenceWord : Value → Text
  | .text _ => "string"
  | v => v.typeName

/-- The element of a sequence at an index, which counts from the end if it is negative, or the value
of a mapping for a key. -/
def pickElement (v : Value) (index : Int) : Except Failure Value :=
  match v with
  | .dict entries =>
    match Value.lookup? (.int index) entries with
    | some item => .ok item
    | none => do
      let key ← Numeral.int? index
      throw (.noKey key)
  | v =>
    match v.elements? with
    | none => .error (.notIndexed v.fullTypeName)
    | some items =>
      let place := if index < 0 then index + items.length else index
      if place < 0 then .error (.noElement (sequenceWord v))
      else match items[place.toNat]? with
        | some item => .ok item
        | none => .error (.noElement (sequenceWord v))

/-- The two columns that a value holds, which is any sequence of two. -/
def columnsOf (v : Value) : Except Failure (Value × Value) :=
  match v.elements? with
  | none => .error (.noColumns v.fullTypeName)
  | some [starts, durations] => .ok (starts, durations)
  | some items =>
    if items.length < 2 then .error (.missingColumns items.length)
    else .error (.surplusColumns items.length)

/-- The **value that a production makes**. -/
def Production.make (slots : Slots) : Production → Except Failure Value
  | .build kind start duration label => (Interval.build kind start duration label).map (·.toValue)
  | .between kind start finish => (Interval.between kind start finish).map (·.toValue)
  | .startingAt kind start duration => (Interval.startingAt kind start duration).map (·.toValue)
  | .ofPayload kind payload => (Interval.ofPayload kind payload).map (·.toValue)
  | .ofDocument kind document => (Interval.ofDocument kind document).map (·.toValue)
  | .replace slot changes => do
    let v ← slots.get slot
    let given ← changes
    given.apply v
  | .copy slot => slots.get slot
  | .deepCopy slot => do
    let v ← slots.get slot
    return v.deepCopy (slots.length + 1)
  | .toDocument slot => do
    let v ← slots.get slot
    let i ← asInterval v "to_json"
    let t ← i.toDocument
    return .text t
  | .toRow slot => do
    let v ← slots.get slot
    let row ← rowOf v
    return row.toValue
  | .listToDocument names => do
    let rows ← slots.rows names
    return .text (Row.listDocument rows)
  | .toColumns names => do
    let rows ← slots.rows names
    return (Columns.ofRows rows).toValue
  | .payloadIn kind slot => do
    let v ← slots.get slot
    let i ← Interval.ofPayload kind v
    return i.toValue
  | .documentIn kind slot => do
    let v ← slots.get slot
    let i ← Interval.ofDocument kind v
    return i.toValue
  | .listDocumentIn slot => do
    let v ← slots.get slot
    let intervals ← Interval.listOfDocument v
    return listValue intervals
  | .columnsIn slot => do
    let v ← slots.get slot
    let (starts, durations) ← columnsOf v
    let intervals ← Interval.ofColumns starts durations
    return listValue intervals
  | .pick slot index => do
    let v ← slots.get slot
    pickElement v index

end TimeWindow.Session
