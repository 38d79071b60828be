import TimeWindow.Encoding.Utf8
import TimeWindow.Encoding.Wide

set_option autoImplicit false

/-!
# The encoding of a document

A document may come in any of five encodings. A byte order mark at its beginning tells which;
without one, the first characters of a document are ASCII, so that the places of zero bytes among
the first four bytes tell.

## Main definitions

* `TimeWindow.Encoding.detect` — the encoding of a document.
* `TimeWindow.Encoding.decode` — the text of a document.
-/

namespace TimeWindow.Encoding

/-- The encoding that the zero bytes among the first bytes tell: two zero bytes next to each other
at the first character mean units of four bytes. -/
def detectByZeros : List UInt8 → Encoding
  | [a, b] =>
    if a = 0 then .utf16 .big
    else if b = 0 then .utf16 .little
    else .utf8
  | a :: b :: c :: d :: _ =>
    if a = 0 then (if b = 0 then .utf32 .big else .utf16 .big)
    else if b = 0 then (if c = 0 ∧ d = 0 then .utf32 .little else .utf16 .little)
    else .utf8
  | _ => .utf8

/-- The byte order marks, those of four bytes before those of two. -/
def marks : List (List UInt8 × Encoding) :=
  [([0x00, 0x00, 0xFE, 0xFF], .utf32 .big), ([0xFF, 0xFE, 0x00, 0x00], .utf32 .little),
    ([0xFE, 0xFF], .utf16 .big), ([0xFF, 0xFE], .utf16 .little), ([0xEF, 0xBB, 0xBF], .utf8)]

/-- The **encoding of a document**, and the number of bytes of its mark. -/
def detect (bytes : List UInt8) : Encoding × Nat :=
  match marks.find? fun mark => mark.1.isPrefixOf bytes with
  | some mark => (mark.2, mark.1.length)
  | none => (detectByZeros bytes, 0)

/-- The **text of a document**. In units of two or four bytes, positions count from before the
mark, and in single bytes from after it. -/
def decode (bytes : List UInt8) : Except Fault Text :=
  let (encoding, mark) := detect bytes
  match encoding with
  | .utf8 => utf8Decode (bytes.drop mark)
  | .utf16 order => utf16Decode order mark (bytes.drop mark)
  | .utf32 order => utf32Decode order mark (bytes.drop mark)

end TimeWindow.Encoding
