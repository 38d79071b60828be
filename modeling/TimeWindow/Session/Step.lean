import TimeWindow.Interval.Columns
import TimeWindow.Interval.Document
import TimeWindow.Value.Copy
import TimeWindow.Value.Order

set_option autoImplicit false

/-!
# Steps of a session

A session is a script over named slots. Each step either makes a value and keeps it in a slot, or
asks a question about values that were kept before. Data that come with a slot can fail to be built;
such a failure is kept with the step, because an empty slot is noticed before it.

## Main definitions

* `TimeWindow.Session.Changes` — the parts of an interval that a copy of it changes.
* `TimeWindow.Session.Production` — the ways to make a value.
* `TimeWindow.Session.Question` — the questions.
* `TimeWindow.Session.Step` — the steps.
* `TimeWindow.Session.Slots` — the values that were kept, by name.
-/

namespace TimeWindow.Session

/-! ## Steps -/

/-- The **changes** that a copy of an interval makes: the parts that are given replace its own. -/
structure Changes where
  start : Option Value
  duration : Option Value
  label : Option Value

/-- A **production**: a way to make a value, from data or from slots. -/
inductive Production where
  | build (kind : Kind) (start duration label : Option Value)
  | between (kind : Kind) (start finish : Value)
  | startingAt (kind : Kind) (start duration : Value)
  | ofPayload (kind : Kind) (payload : Value)
  | ofDocument (kind : Kind) (document : Value)
  /-- A copy of an interval with some parts changed. -/
  | replace (slot : Text) (changes : Except Failure Changes)
  | copy (slot : Text)
  | deepCopy (slot : Text)
  | toDocument (slot : Text)
  | toRow (slot : Text)
  | listToDocument (slots : List Text)
  | toColumns (slots : List Text)
  | payloadIn (kind : Kind) (slot : Text)
  | documentIn (kind : Kind) (slot : Text)
  | listDocumentIn (slot : Text)
  | columnsIn (slot : Text)
  /-- An element of a sequence, or the value of a key of a mapping. -/
  | pick (slot : Text) (index : Int)

/-- A part of an interval that can be looked at. -/
inductive Part where
  | start
  | finish
  | duration
  | span
  | startMoment (key : Text)
  | finishMoment (key : Text)
  | mapping

/-- A **question** about slots. -/
inductive Question where
  | get (slot : Text)
  | part (part : Part) (slot : Text)
  | display (slot : Text)
  | written (slot : Text)
  | equal (left right : Text)
  | unequal (left right : Text)
  | less (left right : Text)
  | equalHash (left right : Text)
  | countDistinct (slots : List Text)
  /-- Assigning to a part, which is refused. -/
  | assign (slot name : Text) (value : Except Failure Value)
  /-- Deleting a part, which is refused. -/
  | delete (slot name : Text)

/-- A **step**. -/
inductive Step where
  | keep (slot : Text) (production : Production)
  | ask (question : Question)

/-- The **answer** to a step: a value, or how many there are. -/
inductive Answer where
  | value (v : Value)
  | count (n : Nat)

/-! ## Slots -/

/-- The values that were **kept**, the latest first. -/
abbrev Slots : Type := List (Text × Value)

/-- The value in a slot. -/
def Slots.get (slots : Slots) (name : Text) : Except Failure Value :=
  match slots.find? fun slot => slot.1 = name with
  | some slot => .ok slot.2
  | none => .error (.emptySlot name)

/-- The slots with a value kept under a name. -/
def Slots.keep (slots : Slots) (name : Text) (v : Value) : Slots :=
  (name, v) :: slots

/-- The name of the part that is asked for. -/
def Part.name : Part → Text
  | .start => "start"
  | .finish => "end"
  | .duration => "duration"
  | .span => "as_timedelta"
  | .startMoment _ => "start_datetime"
  | .finishMoment _ => "end_datetime"
  | .mapping => "to_dict"

/-- The interval that a value is, where a part with some name is needed. -/
def asInterval (v : Value) (part : Text) : Except Failure Interval :=
  match v.toInterval? with
  | some i => .ok i
  | none => .error (.noAttribute v.fullTypeName part)

end TimeWindow.Session
