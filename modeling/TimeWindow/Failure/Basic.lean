import TimeWindow.Calendar.Fault
import TimeWindow.Interval.Parts
import TimeWindow.Json.Fault
import TimeWindow.Zone.Fault

set_option autoImplicit false

/-!
# Failures

Every operation of the library answers with a value or with a failure. A failure is its cause,
with the data that its wording shows; values that it shows are kept in their written form.

## Main definitions

* `TimeWindow.Failure` — the causes.
* `TimeWindow.Failure.Category` — the classes of failures that a caller can tell apart.
* `TimeWindow.Failure.category`, `TimeWindow.Failure.origin` — the class of a failure, and the
  class of the failure that it was raised from.
-/

namespace TimeWindow

/-- A **failure**, by its cause. -/
inductive Failure where
  /-- An instant is a moment without an offset. -/
  | naiveMoment (edge : Edge) (written : Text)
  /-- An instant is neither an integer nor a moment. -/
  | notInstant (edge : Edge) (type written : Text)
  /-- A duration is neither an integer nor a span. -/
  | notDuration (type written : Text)
  /-- What should be a timestamp is made of bytes. -/
  | byteTimestamp
  /-- A text does not have the shape of a timestamp. -/
  | notTimestamp (written : Text)
  /-- A timestamp has no offset. -/
  | noOffset (written : Text)
  /-- A date, time or offset is written in digits outside ASCII. -/
  | foreignDigits
  /-- The minutes of an offset exceed 59. -/
  | offsetMinutes
  /-- The hours of an offset exceed 23. -/
  | offsetHours
  /-- The hour is 24 and the minute or the second is not zero. -/
  | pastMidnight
  /-- A date or time does not exist. -/
  | calendar (fault : Calendar.Fault)
  /-- An amount of time is too large. -/
  | overflow (overflow : Calendar.Overflow)
  /-- A key names no zone. -/
  | zone (fault : Zone.Fault)
  /-- An integer has too many digits to be written. -/
  | digitLimit
  /-- A numeral has too many digits to be read. -/
  | numeralLimit (digits : Nat)
  /-- A text is no integer. -/
  | notNumeral (written : Text)
  /-- A text is no binary number. -/
  | notBinary (written : Text)
  /-- A number that is not a number has no integer part. -/
  | nanToInteger
  /-- An infinity has no integer part. -/
  | infinityToInteger
  /-- An integer is too large for a binary number. -/
  | integerToBinary
  /-- A binary number is to be padded with zeros. -/
  | paddedBinary
  /-- An operator is not defined on operands of these types. -/
  | operands (operator left right : Text)
  /-- A value of this type is no amount of time. -/
  | notAmount (type : Text)
  /-- A sequence is followed by something of another type. -/
  | concatenation (left right : Text)
  /-- Bytes are followed by something of another type. -/
  | byteConcatenation (left right : Text)
  /-- Values of these types are not ordered. -/
  | unordered (operator left right : Text)
  /-- An interval field is a truth value. -/
  | booleanField (field : Field) (written : Text)
  /-- An interval field is no integer. -/
  | nonIntegerField (field : Field) (type written : Text)
  /-- An interval field does not fit in 64 bits. -/
  | fieldRange (field : Field) (written : Text)
  /-- A payload is no mapping. -/
  | notObject (type written : Text)
  /-- A payload lacks a field; its keys are shown. -/
  | missingField (field : Field) (keys : Text)
  /-- A payload field is no integer. -/
  | payloadField (field : Field) (type written : Text)
  /-- A payload field does not fit in 64 bits. -/
  | payloadRange (field : Field) (written : Text)
  /-- A document cannot be read. -/
  | document (fault : Json.Fault)
  /-- A list document is no array. -/
  | notArray (type : Text)
  /-- An element of a list document is no interval. -/
  | element (index : Nat) (inner : Failure)
  /-- A document is neither text nor bytes. -/
  | notDocument (type : Text)
  /-- Two columns differ in length. -/
  | columnLengths (starts durations : Nat)
  /-- A column is no sequence. -/
  | noLength (type : Text)
  /-- An interval is built without some of its fields. -/
  | missingArguments (kind : Kind) (fields : List Field)
  /-- An interval is built with something that its kind does not have. -/
  | unexpectedArgument (kind : Kind) (name : Text)
  /-- A value of this type cannot be a member of a set or a key. -/
  | unhashable (type : Text)
  /-- A value of this type has no such part. -/
  | noAttribute (type name : Text)
  /-- Only intervals can be copied with changes. -/
  | notReplaceable
  /-- The parts of an interval cannot be assigned. -/
  | frozenAssignment (name : Text)
  /-- The parts of an interval cannot be deleted. -/
  | frozenDeletion (name : Text)
  /-- An interval has no such part to be assigned or deleted. -/
  | foreignPart
  /-- A slot of a session is empty. -/
  | emptySlot (name : Text)
  /-- A sequence has no element at an index. -/
  | noElement (sequence : Text)
  /-- A mapping has no such key. -/
  | noKey (written : Text)
  /-- A value of this type has no elements at indices. -/
  | notIndexed (type : Text)
  /-- A value of this type holds no columns. -/
  | noColumns (type : Text)
  /-- A sequence has less than two columns. -/
  | missingColumns (count : Nat)
  /-- A sequence has more than two columns. -/
  | surplusColumns (count : Nat)
deriving DecidableEq

namespace Failure

/-! ## Categories -/

/-- A **category**: what a caller can tell failures apart by. -/
inductive Category where
  | wrongType
  | badValue
  | overflow
  /-- A payload or document is not an interval; a special bad value. -/
  | undecodable
  /-- A field does not fit in 64 bits; a special bad value. -/
  | outOfRange
  | unknownZone
  | frozen
  | noAttribute
  | noElement
  | noKey
  | emptySlot
  /-- The text of a document breaks the grammar. -/
  | malformedDocument
  /-- Bytes are not text. -/
  | malformedBytes
  /-- Text is not ASCII. -/
  | malformedAscii
  /-- Containers are nested too deeply. -/
  | nesting
deriving DecidableEq

/-- The category of a zone fault: only a well-formed key can be unknown. -/
def ofZoneFault : Zone.Fault → Category
  | .unknown _ => .unknownZone
  | .absolute _ | .unnormalized _ | .outside _ | .zeroInName => .badValue

/-- The **category** of a failure. -/
def category : Failure → Category
  | .naiveMoment .. | .notInstant .. | .notDuration .. | .byteTimestamp => .wrongType
  | .notTimestamp _ | .noOffset _ | .foreignDigits => .badValue
  | .offsetMinutes | .offsetHours | .pastMidnight | .calendar _ => .badValue
  | .overflow _ => .overflow
  | .zone fault => ofZoneFault fault
  | .digitLimit | .nanToInteger | .paddedBinary => .badValue
  | .numeralLimit _ | .notNumeral _ | .notBinary _ => .badValue
  | .infinityToInteger | .integerToBinary => .overflow
  | .operands .. | .notAmount _ | .concatenation .. => .wrongType
  | .byteConcatenation .. | .unordered .. => .wrongType
  | .booleanField .. | .nonIntegerField .. => .wrongType
  | .fieldRange .. => .outOfRange
  | .notObject .. | .missingField .. | .payloadField .. | .payloadRange .. => .undecodable
  | .document _ | .notArray _ | .element .. => .undecodable
  | .notDocument _ => .wrongType
  | .columnLengths .. => .badValue
  | .noLength _ => .wrongType
  | .missingArguments .. | .unexpectedArgument .. => .wrongType
  | .unhashable _ | .notReplaceable => .wrongType
  | .noAttribute .. => .noAttribute
  | .frozenAssignment _ | .frozenDeletion _ => .frozen
  | .foreignPart | .notIndexed _ => .wrongType
  | .noColumns _ | .missingColumns _ | .surplusColumns _ => .wrongType
  | .emptySlot _ => .emptySlot
  | .noElement _ => .noElement
  | .noKey _ => .noKey

/-- The category of what a document fault was first noticed as. -/
def ofDocumentFault : Json.Fault → Category
  | .grammar .. => .malformedDocument
  | .encoding _ => .malformedBytes
  | .digits _ => .badValue
  | .nesting _ => .nesting

/-- The **origin** of a failure: the category of the failure that it was raised from, if it was
raised from one. -/
def origin : Failure → Option Category
  | .foreignDigits => some .malformedAscii
  | .nonIntegerField .. => some .wrongType
  | .document fault => some (ofDocumentFault fault)
  | .element _ inner => some inner.category
  | _ => none

end Failure

end TimeWindow
