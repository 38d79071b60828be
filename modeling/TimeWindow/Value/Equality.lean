import TimeWindow.Value.Hash

set_option autoImplicit false

/-!
# Equality of values

Numbers are equal if they are the same number, whatever their type; sequences, mappings and
intervals are equal if they are of the same kind and their parts are equal. What is not a number is
equal to itself alone, and so is an object that stands for an index. A mapping finds its keys by
equality, and a set tells its members apart by it; both refuse values that have no hash.

## Main definitions

* `TimeWindow.Value.equal` — equality.
* `TimeWindow.Value.withEntry` — the entries of a mapping with one more.
* `TimeWindow.Value.countDistinct` — the size of a set.
-/

namespace TimeWindow

/-! ## Equality -/

/-- A moment **depends on the fold** if its offset does: the time shown is repeated or skipped. -/
def Moment.dependsOnFold (m : Moment) : Bool :=
  m.offset? != ({ m with fold := !m.fold } : Moment).offset?

/-- Two moments at one place are equal if they show the same time. At two places they are equal if
they name the same instant and neither depends on the fold; without offsets they are compared by
what they show. -/
def Moment.equal (m n : Moment) : Bool :=
  if m.place = n.place then decide (m.dateTime = n.dateTime)
  else match m.microseconds?, n.microseconds? with
    | some x, some y => x == y && !m.dependsOnFold && !n.dependsOnFold
    | none, none => decide (m.dateTime = n.dateTime)
    | _, _ => false

namespace Value

/-- The number that a value is: an integer where it is one. -/
def rational? : Value → Option (Int ⊕ Binary64)
  | .bool b => some (.inl (if b then 1 else 0))
  | .int n => some (.inl n)
  | .float (.nan _) => Option.none
  | .float x => some (match x.integer? with
    | some n => .inl n
    | Option.none => .inr x)
  | _ => Option.none

/-- Two values are the same number. -/
def equalNumber (x y : Value) : Bool :=
  match x.rational?, y.rational? with
  | some a, some b => decide (a = b)
  | _, _ => false

mutual

/-- **Equality** of values. -/
def equal : Value → Value → Bool
  | .none, .none => true
  | .text s, .text t => decide (s = t)
  | .bytes s, .bytes t | .bytes s, .buffer t | .buffer s, .bytes t | .buffer s, .buffer t =>
    decide (s = t)
  | .list xs, .list ys => equalAll xs ys
  | .tuple xs, .tuple ys => equalAll xs ys
  | .dict xs, .dict ys => decide (xs.length = ys.length) && equalEntries xs ys
  | .indexLike x _, .indexLike y _ => decide (x = y)
  | .float (.nan x), .float (.nan y) => decide (x = y)
  | .column xs, .column ys => decide (xs = ys)
  | .span s, .span t => decide (s = t)
  | .moment m, .moment n => m.equal n
  | .interval a b, .interval c d => equal a c && equal b d
  | .labeled a b l, .labeled c d k => equal a c && equal b d && equal l k
  | x, y => equalNumber x y

/-- Equality of lists of values, position by position. -/
def equalAll : List Value → List Value → Bool
  | [], [] => true
  | x :: xs, y :: ys => equal x y && equalAll xs ys
  | _, _ => false

/-- Every entry of the first mapping has an equal value under an equal key in the second. -/
def equalEntries : List (Value × Value) → List (Value × Value) → Bool
  | [], _ => true
  | (key, value) :: rest, ys =>
    (ys.any fun entry => equal key entry.1 && equal value entry.2) && equalEntries rest ys

end

/-! ## Mappings and sets -/

/-- The entries with one more: a key that is there keeps its place and takes the new value. -/
def insertEntry (key value : Value) : List (Value × Value) → List (Value × Value)
  | [] => [(key, value)]
  | entry :: rest =>
    if equal entry.1 key then (entry.1, value) :: rest else entry :: insertEntry key value rest

/-- The entries **with one more**, whose key must have a hash. -/
def withEntry (entries : List (Value × Value)) (key value : Value) :
    Except Failure (List (Value × Value)) := do
  let _ ← key.hash
  return insertEntry key value entries

/-- The value of a key. -/
def lookup? (key : Value) (entries : List (Value × Value)) : Option Value :=
  (entries.find? fun entry => equal entry.1 key).map Prod.snd

/-- The **number of different values** in a list. -/
def countDistinct (values : List Value) : Nat :=
  (values.foldl (fun made v => if made.any (equal v) then made else v :: made) []).length

end Value

end TimeWindow
