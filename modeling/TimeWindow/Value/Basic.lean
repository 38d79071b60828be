import TimeWindow.Binary64.Basic
import TimeWindow.Calendar.Span
import TimeWindow.Moment.Basic

set_option autoImplicit false

/-!
# Values

Fields of intervals are not checked when an interval is built, and payloads come from anywhere. So
a field or a payload is a value: one of the kinds of data that can be met there.

## Main definitions

* `TimeWindow.Identity` — what tells objects of one content apart.
* `TimeWindow.Value` — the values.
* `TimeWindow.Value.typeName`, `TimeWindow.Value.fullTypeName` — the name of a value's type.
* `TimeWindow.Value.integer?` — the integer that a value is, or stands for as an index.
* `TimeWindow.Value.elements?` — the elements of a sequence.
-/

namespace TimeWindow

/-- The **identity** of an object that is equal to itself alone: which object it was at first, and
the copyings that made it anew since then, the latest first. -/
structure Identity where
  origin : Nat
  copyings : List Nat := []
deriving DecidableEq

/-- A **value**. -/
inductive Value where
  | none
  | bool (b : Bool)
  | int (n : Int)
  | float (x : Binary64)
  | text (t : Text)
  | bytes (bytes : List UInt8)
  /-- Bytes that can be changed in place. -/
  | buffer (bytes : List UInt8)
  | list (items : List Value)
  | tuple (items : List Value)
  /-- A mapping in the order in which its keys were first given. -/
  | dict (entries : List (Value × Value))
  /-- An object that is no integer but stands for a value where an index is needed. -/
  | indexLike (identity : Identity) (value : Value)
  /-- A column of 64-bit integers. -/
  | column (words : List Int)
  | span (span : Calendar.Span)
  | moment (moment : Moment)
  /-- A plain interval. -/
  | interval (start duration : Value)
  /-- An interval with a label. -/
  | labeled (start duration label : Value)

namespace Value

/-- The **name of the type** of a value. -/
def typeName : Value → Text
  | .none => "NoneType"
  | .bool _ => "bool"
  | .int _ => "int"
  | .float _ => "float"
  | .text _ => "str"
  | .bytes _ => "bytes"
  | .buffer _ => "bytearray"
  | .list _ => "list"
  | .tuple _ => "tuple"
  | .dict _ => "dict"
  | .indexLike .. => "IndexLike"
  | .column _ => "array"
  | .span _ => "timedelta"
  | .moment _ => "datetime"
  | .interval .. => Kind.plain.name
  | .labeled .. => Kind.labeled.name

/-- The name of the type of a value with the place where the type is defined. -/
def fullTypeName : Value → Text
  | .column _ => "array.array"
  | .span _ => "datetime.timedelta"
  | .moment _ => "datetime.datetime"
  | v => v.typeName

/-- The integer that a value is, truth values counting as zero and one. -/
def number? : Value → Option Int
  | .bool b => some (if b then 1 else 0)
  | .int n => some n
  | _ => Option.none

/-- The **integer that a value stands for** where an index is needed. -/
def integer? : Value → Option Int
  | .indexLike _ v => v.number?
  | v => v.number?

/-- The **elements of a sequence**: the code points of a text, the numbers of bytes, the keys of a
mapping. -/
def elements? : Value → Option (List Value)
  | .text t => some (t.map fun c => .text [c])
  | .bytes bs | .buffer bs => some (bs.map fun b => .int b.toNat)
  | .list items | .tuple items => some items
  | .dict entries => some (entries.map Prod.fst)
  | .column words => some (words.map .int)
  | _ => Option.none

end Value

end TimeWindow
