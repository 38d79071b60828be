import TimeWindow.Binary64.Basic
import TimeWindow.Value.Equality

set_option autoImplicit false

/-!
# JSON documents

A document as data: what its text says, with the members of objects in writing order and repeated
names kept. As a value, an object is a mapping, in which the last member with a name counts.

## Main definitions

* `TimeWindow.Json` — documents.
* `TimeWindow.Json.toValue` — the value that a document denotes.
-/

namespace TimeWindow

/-- A **JSON document**. -/
inductive Json where
  | null
  | bool (b : Bool)
  | int (n : Int)
  | float (x : Binary64)
  | text (t : Text)
  | array (items : List Json)
  | object (members : List (Text × Json))

namespace Json

mutual

/-- The **value** that a document denotes. -/
def toValue : Json → Value
  | .null => .none
  | .bool b => .bool b
  | .int n => .int n
  | .float x => .float x
  | .text t => .text t
  | .array items => .list (toValues items)
  | .object members => .dict (toEntries [] members)

/-- The values of documents, in order. -/
def toValues : List Json → List Value
  | [] => []
  | j :: rest => toValue j :: toValues rest

/-- Entries with those of more members: a repeated name keeps its place and takes the new
value. -/
def toEntries (made : List (Value × Value)) : List (Text × Json) → List (Value × Value)
  | [] => made
  | (name, j) :: rest => toEntries (Value.insertEntry (.text name) (toValue j) made) rest

end

end Json

end TimeWindow
