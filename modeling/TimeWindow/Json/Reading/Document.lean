import TimeWindow.Encoding.Detection
import TimeWindow.Json.Reading.Number
import TimeWindow.Json.Reading.Quoted

set_option autoImplicit false

/-!
# Reading documents

A document is one value with blanks around it. Containers may be nested, but not without limit.

## Main definitions

* `TimeWindow.Json.value` — the reader of values with a limit on nesting.
* `TimeWindow.Json.read` — the document of a text.
* `TimeWindow.Json.ofText`, `TimeWindow.Json.ofBytes` — the document of a text that must have no
  byte order mark, and of bytes in a detected encoding.
-/

namespace TimeWindow.Json

/-! ## Values -/

/-- The words that are values, and their values. -/
def literals : List (Text × Json) :=
  [("null", .null), ("true", .bool true), ("false", .bool false), ("NaN", .float (.nan 0)),
    ("Infinity", .float (.infinity false)), ("-Infinity", .float (.infinity true))]

/-- The word at the front of a text, and its value. -/
def literal? (s : Text) : Option (Text × Json) :=
  literals.find? fun literal => literal.1.isPrefixOf s

/-- What follows a word is shorter. -/
theorem length_drop_literal? {s word : Text} {j : Json} (h : literal? s = some (word, j)) :
    (s.drop word.length).length < s.length := by
  have hp : word.isPrefixOf s = true :=
    List.find?_some (p := fun literal : Text × Json => literal.1.isPrefixOf s) h
  have hw : 0 < word.length := by
    have hall : ∀ literal ∈ literals, 0 < literal.1.length := by
      simp only [literals, List.forall_mem_cons]
      decide
    exact hall _ (List.mem_of_find?_eq_some h)
  have := (List.isPrefixOf_iff_prefix.1 hp).length_le
  rw [List.length_drop]
  omega

/-- The reader of words and numbers. -/
def scalar : Reader Json := fun s =>
  match h : literal? s with
  | some (word, j) => .ok ⟨j, s.drop word.length, length_drop_literal? h⟩
  | none => number s

/-- The reader of a member of an object: a name, a colon and a value. -/
def member (item : Reader Json) : Reader (Text × Json) := fun s =>
  match s with
  | [] => .error (.complaint .name 0)
  | c :: t =>
    if c = CodePoint.ofChar '"' then
      match quoted (c :: t) t with
      | .error stop => .error stop
      | .ok ⟨name, r, hr⟩ =>
        match h : skipBlanks r with
        | [] => .error (.complaint .colon 0)
        | d :: u =>
          if d = CodePoint.ofChar ':' then
            have hu : (skipBlanks u).length ≤ (c :: t).length := by
              have hb := length_skipBlanks_le r
              have hd := length_skipBlanks_le u
              rw [h, List.length_cons] at hb
              rw [List.length_cons]
              omega
            match item (skipBlanks u) with
            | .error stop => .error stop
            | .ok read => .ok ((read.map (name, ·)).widen hu)
          else .error (.complaint .colon (u.length + 1))
    else .error (.complaint .name (t.length + 1))

/-- The reader of values, given readers for what comes after the opening brackets. -/
def valueWith (array : Reader (List Json)) (object : Reader (List (Text × Json))) :
    Reader Json := fun s =>
  match s with
  | [] => .error (.complaint .value 0)
  | c :: t =>
    have ht := length_le_cons c t
    if c = CodePoint.ofChar '"' then
      (quoted (c :: t) t).map fun r => (r.map .text).widen ht
    else if c = CodePoint.ofChar '[' then
      (array t).map fun r => (r.map .array).widen ht
    else if c = CodePoint.ofChar '\x7b' then
      (object t).map fun r => (r.map .object).widen ht
    else scalar (c :: t)

/-- The **reader of values** in which at most `depth` containers are open at once. -/
def value : (depth : Nat) → Reader Json
  | 0 => valueWith (fun _ => .error (.nesting .array)) (fun _ => .error (.nesting .object))
  | depth + 1 =>
    valueWith (sequence ']' (value depth)) (sequence '\x7d' (member (value depth)))

/-! ## Documents -/

/-- The number of containers that may be open at once. This is no rule of the format. It comes from
where the reader runs: it calls itself for each open container, on a stack of a thousand calls, of
which its callers take some. So the limit stands for one depth of the callers, ten calls. Documents
that are nested five hundred deep are read, and those of two thousand open containers are refused,
for many other depths as well. -/
def nestingLimit : Nat := 990

/-- The fault of a document at which reading stopped. -/
def Stop.toFault (document : Text) : Stop → Fault
  | .complaint what unread =>
    .grammar what (.ofIndex document (document.length - unread))
  | .digits n => .digits n
  | .nesting c => .nesting c

/-- The **document of a text**. -/
def read (t : Text) : Except Fault Json :=
  match value nestingLimit (skipBlanks t) with
  | .error stop => .error (stop.toFault t)
  | .ok r =>
    match skipBlanks r.rest with
    | [] => .ok r.value
    | rest => .error ((Stop.complaint .extraData rest.length).toFault t)

/-- The **document of a text** that must not begin with a byte order mark. -/
def ofText (t : Text) : Except Fault Json :=
  if t.head? = some (CodePoint.ofNat 0xFEFF) then
    .error ((Stop.complaint .byteOrderMark t.length).toFault t)
  else read t

/-- The **document of bytes**, in the encoding that they are in. -/
def ofBytes (bytes : List UInt8) : Except Fault Json :=
  match Encoding.decode bytes with
  | .error fault => .error (.encoding fault)
  | .ok t => read t

end TimeWindow.Json
