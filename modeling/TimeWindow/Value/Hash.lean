import TimeWindow.Binary64.Arithmetic
import TimeWindow.Value.Basic

set_option autoImplicit false

/-!
# Hashes of values

Values that cannot change have a hash, which equal values share. The hash of a number is the number
modulo `2 ^ 61 - 1`, and the hash of a sequence mixes those of its parts. The hashes of bytes and
of objects are not known, only what they depend on; so a hash is a known word, or else it is
spelled by what it depends on.

Texts are hashed as the bytes that store them, spans as their three fields, moments with an offset
as the span from the first day of the calendar, and moments without one as their bytes.

## Main definitions

* `TimeWindow.Hash` — hashes.
* `TimeWindow.Hash.ofParts` — the hash of a sequence.
* `TimeWindow.Value.hash` — the hash of a value.
-/

namespace TimeWindow

/-! ## Words -/

/-- A **mark**: something that a hash depends on. -/
inductive HashMark where
  /-- A known hash. -/
  | word (w : UInt64)
  /-- The hash of bytes. -/
  | bytes (bytes : List UInt8)
  /-- The hash of the absence of a value. -/
  | absence
  /-- The hash of what is not a number. -/
  | nan (payload : Nat)
  /-- The hash of an object that is equal to itself alone. -/
  | object (identity : Identity)
  /-- The hash of the sequence whose parts follow. -/
  | sequence (length : Nat)
deriving DecidableEq

/-- A **hash**, spelled by its marks; a known one is a single word. -/
abbrev Hash : Type := List HashMark

namespace Hash

/-- The word of an integer, which is never that of minus one. -/
def ofInt (n : Int) : Hash :=
  let residue := Binary64.residue (n < 0) n.natAbs 0
  [.word (UInt64.ofInt (if residue = -1 then -2 else residue))]

/-- The hash of bytes; nothing has the hash zero. -/
def ofBytes (bytes : List UInt8) : Hash :=
  if bytes = [] then [.word 0] else [.bytes bytes]

/-- The known word that a hash is. -/
def word? : Hash → Option UInt64
  | [.word w] => some w
  | _ => none

/-- A word with its bits moved up by 31 places, those at the top coming in at the bottom. -/
def rotated (w : UInt64) : UInt64 :=
  w <<< 31 ||| w >>> 33

/-- Mixes one more part into what was mixed so far. -/
def mixInto (mixed part : UInt64) : UInt64 :=
  rotated (mixed + part * 14029467366897019727) * 11400714785074694791

/-- The seed that sequences are mixed into. -/
def seed : UInt64 := 2870177450012600261

/-- The word of a sequence: its parts mixed in order, and then its length. -/
def mix (parts : List UInt64) : UInt64 :=
  let mixed := parts.foldl mixInto seed + (UInt64.ofNat parts.length ^^^ (seed ^^^ 3527539))
  if mixed = UInt64.ofInt (-1) then 1546275796 else mixed

/-- The **hash of a sequence**: known if those of all parts are. -/
def ofParts (parts : List Hash) : Hash :=
  match parts.mapM word? with
  | some words => [.word (mix words)]
  | none => .sequence parts.length :: parts.flatten

/-- The hash of a span with given fields. -/
def ofSpan (days : Int) (seconds microseconds : Nat) : Hash :=
  ofParts [ofInt days, ofInt seconds, ofInt microseconds]

end Hash

/-! ## Bytes -/

/-- The bytes that store a code point in `width` bytes, the lowest first. -/
def CodePoint.stored (width : Nat) (c : CodePoint) : List UInt8 :=
  (List.range width).map fun place => UInt8.ofNat (c.val / Nat.pow 256 place)

/-- The bytes that store a text: one for each code point, or two or four if one needs them. -/
def Text.stored (t : Text) : List UInt8 :=
  let width :=
    if t.all fun c => c.val < 0x100 then 1
    else if t.all fun c => c.val < 0x10000 then 2
    else 4
  t.flatMap (CodePoint.stored width)

/-- The bytes that store a date and a time. -/
def Calendar.DateTime.stored (d : Calendar.DateTime) : List UInt8 :=
  let year := d.date.year.natAbs
  let part := d.time.microsecond
  [year / 256, year, d.date.month, d.date.day, d.time.hour, d.time.minute, d.time.second,
    part / 65536, part / 256, part].map UInt8.ofNat

/-- The hash of a moment, which does not depend on the fold. -/
def Moment.hash (m : Moment) : Hash :=
  match ({ m with fold := false } : Moment).microseconds? with
  | some n =>
    let rest := (n % 86400000000).toNat
    Hash.ofSpan (n / 86400000000 + 719163) (rest / 1000000) (rest % 1000000)
  | none => .ofBytes m.dateTime.stored

/-! ## Values -/

namespace Value

mutual

/-- The **hash** of a value. Values that can change have none. -/
def hash : Value → Except Failure Hash
  | .none => .ok [.absence]
  | .bool b => .ok (.ofInt (if b then 1 else 0))
  | .int n => .ok (.ofInt n)
  | .float (.nan payload) => .ok [.nan payload]
  | .float (.infinity negative) => .ok (.ofInt (if negative then -314159 else 314159))
  | .float (.finite negative m e) => .ok (.ofInt (Binary64.residue negative m e))
  | .text t => .ok (.ofBytes t.stored)
  | .bytes bs => .ok (.ofBytes bs)
  | .tuple items => do
    let parts ← hashAll items
    return .ofParts parts
  | .indexLike identity _ => .ok [.object identity]
  | .span s => .ok (.ofSpan s.days s.seconds s.microseconds)
  | .moment m => .ok m.hash
  | .interval start duration => do
    let a ← hash start
    let b ← hash duration
    return .ofParts [a, b]
  | .labeled start duration label => do
    let a ← hash start
    let b ← hash duration
    let l ← hash label
    return .ofParts [a, b, l]
  | .list items => .error (.unhashable (Value.list items).fullTypeName)
  | .dict entries => .error (.unhashable (Value.dict entries).fullTypeName)
  | .buffer bs => .error (.unhashable (Value.buffer bs).fullTypeName)
  | .column words => .error (.unhashable (Value.column words).fullTypeName)

/-- The hashes of values, in order. -/
def hashAll : List Value → Except Failure (List Hash)
  | [] => .ok []
  | v :: rest => do
    let part ← hash v
    let parts ← hashAll rest
    return part :: parts

end

end Value

end TimeWindow
