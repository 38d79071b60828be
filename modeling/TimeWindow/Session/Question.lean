import TimeWindow.Session.Step

set_option autoImplicit false

/-!
# Questions of a session

A question is answered from the values in slots, which it leaves as they are. Two slots are looked
up in order; where hashes are needed, the first value is hashed before the second slot is looked up.

## Main definitions

* `TimeWindow.Session.Part.look` — what an interval shows as a part.
* `TimeWindow.Session.refusal` — why a part cannot be changed.
* `TimeWindow.Session.Question.answer` — the answer to a question.
-/

namespace TimeWindow.Session

/-- What an interval shows as a part. -/
def Part.look (i : Interval) : Part → Except Failure Value
  | .start => .ok i.start
  | .finish => i.finish
  | .duration => .ok i.duration
  | .span => i.span.map .span
  | .startMoment key => (i.startMoment key).map .moment
  | .finishMoment key => (i.finishMoment key).map .moment
  | .mapping => i.toRow.map Row.toValue

/-- The values in two slots. -/
def Slots.pair (slots : Slots) (left right : Text) : Except Failure (Value × Value) := do
  let x ← slots.get left
  let y ← slots.get right
  return (x, y)

/-- The hash of the value in a slot. -/
def Slots.hash (slots : Slots) (name : Text) : Except Failure Hash := do
  let v ← slots.get name
  v.hash

/-- The value in a slot as a member of a set, which must have a hash. -/
def Slots.member (slots : Slots) (name : Text) : Except Failure Value := do
  let v ← slots.get name
  let _ ← v.hash
  return v

/-- The names of the parts that an interval keeps. -/
def partNames (i : Interval) : List Text :=
  let label : List Text := if i.label.isSome then ["label"] else []
  [Field.start.key, Field.duration.key] ++ label

/-- Why a named part cannot be changed: an interval keeps its parts as they are, and other values
have no parts. -/
def refusal (frozen : Text → Failure) (v : Value) (name : Text) : Failure :=
  match v.toInterval? with
  | none => .noAttribute v.fullTypeName name
  | some i => if name ∈ partNames i then frozen name else .foreignPart

/-- The **answer to a question**. -/
def Question.answer (slots : Slots) : Question → Except Failure Answer
  | .get slot => (slots.get slot).map .value
  | .part p slot => do
    let v ← slots.get slot
    let i ← asInterval v p.name
    let shown ← p.look i
    return .value shown
  | .display slot => do
    let v ← slots.get slot
    let t ← v.display
    return .value (.text t)
  | .written slot => do
    let v ← slots.get slot
    let t ← v.written
    return .value (.text t)
  | .equal left right => do
    let (x, y) ← slots.pair left right
    return .value (.bool (x.equal y))
  | .unequal left right => do
    let (x, y) ← slots.pair left right
    return .value (.bool (!x.equal y))
  | .less left right => do
    let (x, y) ← slots.pair left right
    let b ← x.less y
    return .value (.bool b)
  | .equalHash left right => do
    let x ← slots.hash left
    let y ← slots.hash right
    return .value (.bool (x = y))
  | .countDistinct names => do
    let members ← names.mapM slots.member
    return .count (Value.countDistinct members)
  | .assign slot name value => do
    let v ← slots.get slot
    let _ ← value
    throw (refusal .frozenAssignment v name)
  | .delete slot name => do
    let v ← slots.get slot
    throw (refusal .frozenDeletion v name)

end TimeWindow.Session
