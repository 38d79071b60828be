import TimeWindow.Interval.Document
import TimeWindow.Proofs.Encoding.Detection

set_option autoImplicit false

/-!
# Documents in bytes

A document may be given as text, or as the bytes that spell the text in single units. A text that
begins unmarked is read in the same way from either.

## Main definitions

* `TimeWindow.Value.Holds` — a document holds a text.

## Main results

* `TimeWindow.Value.Holds.readDocument` — documents that hold one text are read alike.
-/

namespace TimeWindow

/-- A document **holds a text** if it is that text, or the bytes that spell it in single units. -/
inductive Value.Holds (t : Text) : Value → Prop
  | text : Holds t (.text t)
  | bytes : Holds t (.bytes (Encoding.utf8Encode t))
  | buffer : Holds t (.buffer (Encoding.utf8Encode t))

/-- The bytes of an unmarked text are read as the text is. -/
theorem Json.ofBytes_utf8Encode {t : Text} (h : Encoding.BeginsUnmarked t) :
    ofBytes (Encoding.utf8Encode t) = ofText t := by
  rw [ofBytes, Encoding.decode_utf8Encode h, ofText, if_neg h.1]

/-- **Documents that hold an unmarked text** are read as the text is. -/
theorem Value.Holds.readDocument {t : Text} {document : Value} (h : document.Holds t)
    (ht : Encoding.BeginsUnmarked t) : document.readDocument = (Value.text t).readDocument := by
  cases h with
  | text => rfl
  | bytes => rw [Value.readDocument, Value.readDocument, Json.ofBytes_utf8Encode ht]
  | buffer => rw [Value.readDocument, Value.readDocument, Json.ofBytes_utf8Encode ht]

end TimeWindow
