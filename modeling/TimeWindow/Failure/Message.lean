import TimeWindow.Numeral.Limit
import TimeWindow.Text.Quoted

set_option autoImplicit false

/-!
# The wording of failures

One wording for each cause. Numbers that are part of a wording are small, so that the digit limit
does not concern them; written values that are part of it have met the limit before.

## Main definitions

* `TimeWindow.Encoding.Fault.message`, `TimeWindow.Json.Fault.message`,
  `TimeWindow.Calendar.Fault.message`, `TimeWindow.Calendar.Overflow.message`,
  `TimeWindow.Zone.Fault.message` — the wording of faults.
* `TimeWindow.Failure.message` — the wording of a failure.
-/

namespace TimeWindow

/-! ## Faults -/

/-- Bytes are named by their positions, a single byte also by its number. -/
def Encoding.Fault.message (f : Encoding.Fault) : Text :=
  let place : List Text :=
    if f.count = 1 then
      ["byte 0x", Numeral.hexadecimal 2 f.byte.toNat, " in position ", Numeral.nat f.start]
    else
      ["bytes in position ", Numeral.nat f.start, "-", Numeral.nat (f.start + f.count - 1)]
  Text.concat ["'", f.encoding.name, "' codec can't decode ", Text.concat place, ": ",
    f.reason.message]

/-- How the digit limit is named. -/
def digitLimitMessage (detail : Text) : Text :=
  Text.concat ["Exceeds the limit (", Numeral.nat Numeral.digitLimit,
    " digits) for integer string conversion", detail,
    "; use sys.set_int_max_str_digits() to increase the limit"]

/-- How a numeral that is too long to be read is reported. -/
def numeralLimitMessage (digits : Nat) : Text :=
  digitLimitMessage (Text.concat [": value has ", Numeral.nat digits, " digits"])

/-- The wording of a document fault. -/
def Json.Fault.message : Json.Fault → Text
  | .grammar complaint p =>
    Text.concat [complaint.message, ": line ", Numeral.nat p.line, " column ",
      Numeral.nat p.column, " (char ", Numeral.nat p.index, ")"]
  | .encoding fault => fault.message
  | .digits count => numeralLimitMessage count
  | .nesting container =>
    Text.concat ["maximum recursion depth exceeded while decoding a JSON ", container.word,
      " from a unicode string"]

/-- The wording of a calendar fault. -/
def Calendar.Fault.message : Calendar.Fault → Text
  | .year n => Text.concat ["year ", Numeral.int n, " is out of range"]
  | .month => "month must be in 1..12"
  | .day => "day is out of range for month"
  | .hour => "hour must be in 0..23"
  | .minute => "minute must be in 0..59"
  | .second => "second must be in 0..59"
  | .microsecond => "microsecond must be in 0..999999"
  | .offset written =>
    Text.concat ["offset must be a timedelta strictly between -timedelta(hours=24) and ",
      "timedelta(hours=24), not ", written, "."]

/-- The wording of an overflow. -/
def Calendar.Overflow.message : Calendar.Overflow → Text
  | .word => "Python int too large to convert to C int"
  | .fieldWord => "Python int too large to convert to C long"
  | .fieldAbove => "signed integer is greater than maximum"
  | .fieldBelow => "signed integer is less than minimum"
  | .days count =>
    Text.concat ["days=", Numeral.int count, "; must have magnitude <= 999999999"]
  | .date => "date value out of range"

/-- The wording of a zone fault. An unknown key is reported in quotes, message and all. -/
def Zone.Fault.message : Zone.Fault → Text
  | .absolute key => Text.concat ["ZoneInfo keys may not be absolute paths, got: ", key]
  | .unnormalized key => Text.concat ["ZoneInfo keys must be normalized relative paths, got: ", key]
  | .outside key =>
    Text.concat ["ZoneInfo keys must refer to subdirectories of TZPATH, got: ", key]
  | .unknown key => (Text.concat ["No time zone found with key ", key]).quoted
  | .zeroInName => "embedded null byte"

/-! ## Failures -/

namespace Failure

/-- The line that shows a value with its type. -/
def gotLine (type written : Text) : Text :=
  Text.concat ["Got ", type.quoted, ": ", written]

/-- The fields that are missing, in quotes. -/
def missingList : List Field → Text
  | [] => []
  | [f] => f.key.quoted
  | f :: rest => Text.concat [f.key.quoted, " and ", missingList rest]

/-- The beginning of a failure to build an interval. -/
def constructor (kind : Kind) : Text :=
  Text.concat [kind.name, ".__init__() "]

/-- The **wording** of a failure. -/
def message : Failure → Text
  | .naiveMoment edge written =>
    Text.concat ["Interval ", edge.word, " must be a timezone-aware datetime.\n",
      "Got naive datetime: ", written, "\n",
      "Hint: Add timezone info:\n",
      "  dt = datetime(..., tzinfo=timezone.utc)"]
  | .notInstant edge type written =>
    Text.concat ["Interval ", edge.word, " must be int (nanoseconds since epoch) or datetime.\n",
      gotLine type written, "\n",
      "Examples:\n",
      "  interval(1672574400000000000, 1672574405000000000)  # int nanoseconds\n",
      "  interval(datetime(2023,1,1,12,tzinfo=timezone.utc), ...)  # timezone-aware datetime\n",
      "  interval(parse_instant('2023-01-01T12:00:00Z'), ...)  # text"]
  | .notDuration type written =>
    Text.concat ["Duration must be int (nanoseconds) or timedelta.\n", gotLine type written]
  | .byteTimestamp => "cannot use a string pattern on a bytes-like object"
  | .notTimestamp written =>
    Text.concat ["Invalid timestamp ", written, ".\n",
      "Expected RFC 3339, e.g. '2023-01-01T12:00:00.123456789Z' ",
      "or '2023-01-01T14:00:00+02:00'"]
  | .noOffset written =>
    Text.concat ["Timestamp ", written, " has no UTC offset.\n",
      "Hint: Append 'Z' for UTC or an explicit offset like '+02:00'"]
  | .foreignDigits => "ISO-8601 strings should contain only ASCII characters"
  | .offsetMinutes => "Invalid minutes in time zone offset"
  | .offsetHours => "Invalid hours in time zone offset"
  | .pastMidnight => "Hour may only be 24 at 24:00:00.000"
  | .calendar fault => fault.message
  | .overflow o => o.message
  | .zone fault => fault.message
  | .digitLimit => digitLimitMessage []
  | .numeralLimit digits => numeralLimitMessage digits
  | .notNumeral written =>
    Text.concat ["invalid literal for int() with base 10: ", written.take 200]
  | .notBinary written => Text.concat ["could not convert string to float: ", written]
  | .nanToInteger => "cannot convert float NaN to integer"
  | .infinityToInteger => "cannot convert float infinity to integer"
  | .integerToBinary => "int too large to convert to float"
  | .paddedBinary => "Unknown format code 'd' for object of type 'float'"
  | .operands operator left right =>
    Text.concat ["unsupported operand type(s) for ", operator, ": '", left, "' and '", right, "'"]
  | .notAmount type =>
    Text.concat ["unsupported type for timedelta microseconds component: ", type]
  | .concatenation left right =>
    Text.concat ["can only concatenate ", left, " (not \"", right, "\") to ", left]
  | .byteConcatenation left right => Text.concat ["can't concat ", right, " to ", left]
  | .unordered operator left right =>
    Text.concat ["'", operator, "' not supported between instances of '", left, "' and '", right,
      "'"]
  | .booleanField field written =>
    Text.concat ["Interval field ", field.key.quoted, " must be an integer, got bool: ", written,
      "\nHint: Build intervals from nanosecond ints, e.g. Interval(a=0, b=SECOND)"]
  | .nonIntegerField field type written =>
    Text.concat ["Interval field ", field.key.quoted, " must be an integer.\n",
      gotLine type written, "\n",
      "Hint: Fractional nanoseconds are not representable; round explicitly before encoding"]
  | .fieldRange field written =>
    Text.concat ["Interval field ", field.key.quoted, " is outside signed 64-bit range.\n",
      "Got: ", written, "\n",
      "Allowed: [-9223372036854775808, 9223372036854775807] nanoseconds ",
      "(roughly ±292 years around 1970)"]
  | .notObject type written =>
    Text.concat ["Interval payload must be a JSON object.\n", gotLine type written]
  | .missingField field keys =>
    Text.concat ["Interval payload is missing field ", field.key.quoted, ".\n",
      "Got keys: ", keys, "\n",
      "Expected: \x7b\"a\": <start ns>, \"b\": <duration ns>\x7d"]
  | .payloadField field type written =>
    Text.concat ["Interval field ", field.key.quoted, " must be an integer.\n",
      gotLine type written]
  | .payloadRange field written =>
    Text.concat ["Interval field ", field.key.quoted, " is outside signed 64-bit range.\n",
      "Got: ", written]
  | .document fault => Text.concat ["Interval payload is not valid JSON: ", fault.message]
  | .notArray type =>
    Text.concat ["Interval list payload must be a JSON array.\n", "Got ", type.quoted]
  | .element index inner =>
    Text.concat ["Element ", Numeral.nat index, ": ", inner.message]
  | .notDocument type =>
    Text.concat ["the JSON object must be str, bytes or bytearray, not ", type]
  | .columnLengths starts durations =>
    Text.concat ["Column lengths differ: ", Numeral.nat starts, " starts vs ",
      Numeral.nat durations, " durations.\n",
      "Each interval needs exactly one value in each column"]
  | .noLength type => Text.concat ["object of type '", type, "' has no len()"]
  | .missingArguments kind fields =>
    Text.concat [constructor kind, "missing ", Numeral.nat fields.length,
      " required keyword-only argument", (if fields.length = 1 then "" else "s"), ": ",
      missingList fields]
  | .unexpectedArgument kind name =>
    Text.concat [constructor kind, "got an unexpected keyword argument ", name.quoted]
  | .unhashable type => Text.concat ["unhashable type: '", type, "'"]
  | .noAttribute type name =>
    Text.concat ["'", type, "' object has no attribute '", name, "'"]
  | .notReplaceable => "replace() should be called on dataclass instances"
  | .frozenAssignment name => Text.concat ["cannot assign to field ", name.quoted]
  | .frozenDeletion name => Text.concat ["cannot delete field ", name.quoted]
  | .foreignPart => "super(type, obj): obj must be an instance or subtype of type"
  | .emptySlot name => name
  | .noElement sequence => Text.concat [sequence, " index out of range"]
  | .noKey written => written
  | .notIndexed type => Text.concat ["'", type, "' object is not subscriptable"]
  | .noColumns type =>
    Text.concat ["nanointerval.codec.from_columns() argument after * must be an iterable, not ",
      type]
  | .missingColumns count =>
    if count = 0 then
      "from_columns() missing 2 required positional arguments: 'starts' and 'durations'"
    else "from_columns() missing 1 required positional argument: 'durations'"
  | .surplusColumns count =>
    Text.concat ["from_columns() takes 2 positional arguments but ", Numeral.nat count,
      " were given"]

end Failure

end TimeWindow
