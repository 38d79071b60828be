import TimeWindow.Moment.Text
import TimeWindow.Value.Amount

set_option autoImplicit false

/-!
# Written and readable forms of values

Failures show the value that they are about in its written form. An integer beyond the digit limit
has none, wherever it stands inside the value. For people, texts, spans, moments and intervals have
a readable form of their own; an object that stands for an index shows its value in that form.

## Main definitions

* `TimeWindow.Value.written` — the written form of a value.
* `TimeWindow.Value.display` — the readable form of a value.
-/

namespace TimeWindow.Value

/-- Written items between brackets, with a comma after a single item of a tuple. -/
def bracketed (opening closing : Text) (items : List Text) : Text :=
  Text.concat [opening, Text.separated ", " items, closing]

/-- The written form of a tuple whose items are written. -/
def writtenTuple (items : List Text) : Text :=
  bracketed "(" (if items.length = 1 then ",)" else ")") items

/-- The written form of an interval whose parts are written. -/
def writtenInterval (kind : Kind) (start duration : Text) (rest : List Text) : Text :=
  bracketed (Text.concat [kind.name, "("]) ")"
    ([Text.concat ["a=", start], Text.concat ["b=", duration]] ++ rest)

/-- The readable form that a value has of its own, if it has one. -/
def readable? : Value → Option (Except Failure Text)
  | .text t => some (.ok t)
  | .span s => some (.ok s.display)
  | .moment m => some (.ok m.display)
  | .interval start duration | .labeled start duration _ => some (start.windowText duration)
  | _ => Option.none

mutual

/-- The **written form** of a value. -/
def written : Value → Except Failure Text
  | .none => .ok "None"
  | .bool b => .ok (if b then "True" else "False")
  | .int n => Numeral.int? n
  | .float x => .ok x.text
  | .text t => .ok t.quoted
  | .bytes bs => .ok (CodePoint.ofChar 'b' :: Text.quotedBytes bs)
  | .buffer bs => .ok (Text.concat ["bytearray(b", Text.quotedBuffer bs, ")"])
  | .list items => do
    let texts ← writtenAll items
    return bracketed "[" "]" texts
  | .tuple items => do
    let texts ← writtenAll items
    return writtenTuple texts
  | .dict entries => do
    let texts ← writtenEntries entries
    return bracketed "\x7b" "\x7d" texts
  | .indexLike _ value => do
    let shown ← value.readable?.getD (written value)
    return Text.concat ["IndexLike(", shown, ")"]
  | .column [] => .ok "array('q')"
  | .column words => do
    let texts ← words.mapM Numeral.int?
    return bracketed "array('q', [" "])" texts
  | .span s => .ok s.written
  | .moment m => .ok m.written
  | .interval start duration => do
    let a ← written start
    let b ← written duration
    return writtenInterval .plain a b []
  | .labeled start duration label => do
    let a ← written start
    let b ← written duration
    let text ← written label
    return writtenInterval .labeled a b [Text.concat ["label=", text]]

/-- The written forms of values, in order. -/
def writtenAll : List Value → Except Failure (List Text)
  | [] => .ok []
  | v :: rest => do
    let text ← written v
    let texts ← writtenAll rest
    return text :: texts

/-- The written forms of the entries of a mapping, in order. -/
def writtenEntries : List (Value × Value) → Except Failure (List Text)
  | [] => .ok []
  | (key, value) :: rest => do
    let k ← written key
    let v ← written value
    let texts ← writtenEntries rest
    return Text.concat [k, ": ", v] :: texts

end

/-- The **readable form** of a value: its own, or else its written form. -/
def display (v : Value) : Except Failure Text :=
  v.readable?.getD v.written

end TimeWindow.Value
