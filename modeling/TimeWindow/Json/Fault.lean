import TimeWindow.Encoding.Fault

set_option autoImplicit false

/-!
# Faults of JSON documents

Why a document cannot be read, and where.

## Main definitions

* `TimeWindow.Json.Complaint` — what the grammar misses at a place.
* `TimeWindow.Json.Position` — a place in a document.
* `TimeWindow.Json.Fault` — all the reasons for which a document is refused.
-/

namespace TimeWindow.Json

/-- A **complaint**: what is missing or wrong at some place of a document. -/
inductive Complaint where
  | value
  | name
  | colon
  | comma
  | extraData
  | unterminated
  | controlCharacter
  | escape
  | unicodeEscape
  | byteOrderMark
deriving DecidableEq

/-- The wording of a complaint. -/
def Complaint.message : Complaint → Text
  | .value => "Expecting value"
  | .name => "Expecting property name enclosed in double quotes"
  | .colon => "Expecting ':' delimiter"
  | .comma => "Expecting ',' delimiter"
  | .extraData => "Extra data"
  | .unterminated => "Unterminated string starting at"
  | .controlCharacter => "Invalid control character at"
  | .escape => "Invalid \\escape"
  | .unicodeEscape => "Invalid \\uXXXX escape"
  | .byteOrderMark => "Unexpected UTF-8 BOM (decode using utf-8-sig)"

/-- A **position** in a document: lines and columns count from one, the index from zero. -/
structure Position where
  line : Nat
  column : Nat
  index : Nat
deriving DecidableEq

/-- The position of the code point with a given index: a line feed ends its line. -/
def Position.ofIndex (document : Text) (index : Nat) : Position :=
  let lineFeed : CodePoint := '\n'
  let read := document.take index
  { line := read.count lineFeed + 1
    column := (read.reverse.takeWhile (· != lineFeed)).length + 1
    index := index }

/-- The two kinds of containers. -/
inductive Container where
  | array
  | object
deriving DecidableEq

/-- The word for a container. -/
def Container.word : Container → Text
  | .array => "array"
  | .object => "object"

/-- A **fault** of a document. -/
inductive Fault where
  /-- The grammar is broken at a position. -/
  | grammar (complaint : Complaint) (position : Position)
  /-- The bytes of the document are not text. -/
  | encoding (fault : Encoding.Fault)
  /-- An integer has more digits than are read. -/
  | digits (count : Nat)
  /-- Too many containers are open at once; the last one opened is of this kind. -/
  | nesting (container : Container)
deriving DecidableEq

end TimeWindow.Json
