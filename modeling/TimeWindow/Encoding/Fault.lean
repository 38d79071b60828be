import TimeWindow.Text.Basic

set_option autoImplicit false

/-!
# Faults of encoded text

What can be wrong with bytes that should spell text: where, over how many bytes, and why.

## Main definitions

* `TimeWindow.Encoding` — the encodings a document may come in.
* `TimeWindow.Encoding.Fault` — the first place at which bytes are not text in their encoding.
-/

namespace TimeWindow

/-- The order of the bytes of a unit. -/
inductive ByteOrder where
  | little
  | big
deriving DecidableEq

/-- An **encoding** of text as bytes. -/
inductive Encoding where
  | utf8
  | utf16 (order : ByteOrder)
  | utf32 (order : ByteOrder)
deriving DecidableEq

namespace Encoding

/-- The name of an encoding. -/
def name : Encoding → Text
  | .utf8 => "utf-8"
  | .utf16 .little => "utf-16-le"
  | .utf16 .big => "utf-16-be"
  | .utf32 .little => "utf-32-le"
  | .utf32 .big => "utf-32-be"

/-- Why bytes are not text. -/
inductive Reason where
  /-- No sequence starts with this byte. -/
  | startByte
  /-- A byte that should continue a sequence does not. -/
  | continuationByte
  /-- The bytes end inside a sequence. -/
  | endOfData
  /-- The bytes end inside a unit of fixed width. -/
  | truncated
  /-- The unit is no code point. -/
  | outOfRange
deriving DecidableEq

/-- The wording of a reason. -/
def Reason.message : Reason → Text
  | .startByte => "invalid start byte"
  | .continuationByte => "invalid continuation byte"
  | .endOfData => "unexpected end of data"
  | .truncated => "truncated data"
  | .outOfRange => "code point not in range(0x110000)"

/-- A **fault**: `count` bytes from position `start` on, the first of which is `byte`, are not
text. -/
structure Fault where
  encoding : Encoding
  byte : UInt8
  start : Nat
  count : Nat
  reason : Reason
deriving DecidableEq

end Encoding

end TimeWindow
