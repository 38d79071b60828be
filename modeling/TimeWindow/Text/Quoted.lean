import TimeWindow.Numeral.Basic
import TimeWindow.Text.Printable

set_option autoImplicit false

/-!
# Quoted text and bytes

A text or a sequence of bytes is shown between quotes. The quote is `'`, unless the content has a
`'` and no `"`. Inside, the quote and the backslash have a backslash in front, the usual three
controls are spelled with a letter, and whatever is not printable is spelled by its number.

## Main definitions

* `TimeWindow.Text.quote` — the quote that a content calls for.
* `TimeWindow.Text.quoted` — a text between quotes.
* `TimeWindow.Text.quotedBytes`, `TimeWindow.Text.quotedBuffer` — bytes between quotes.
-/

namespace TimeWindow.Text

/-- The quote for a content: single, unless that would need escapes and double would not. -/
def quote (t : Text) : CodePoint :=
  if t.contains (CodePoint.ofChar '\'') && !t.contains (CodePoint.ofChar '"') then '"' else '\''

/-- The escapes that quoted text and quoted bytes share: the backslash, the quote itself, tab,
line feed and carriage return. -/
def commonEscape? (quote c : CodePoint) : Option Text :=
  if c = CodePoint.ofChar '\\' || c = quote then some [CodePoint.ofChar '\\', c]
  else if c = CodePoint.ofChar '\t' then some "\\t"
  else if c = CodePoint.ofChar '\n' then some "\\n"
  else if c = CodePoint.ofChar '\r' then some "\\r"
  else none

/-- The spelling of a code point by its number, in two, four or eight hexadecimal digits. -/
def numericEscape (c : CodePoint) : Text :=
  if c.val < 0x100 then "\\x" ++ Numeral.hexadecimal 2 c.val
  else if c.val < 0x10000 then "\\u" ++ Numeral.hexadecimal 4 c.val
  else "\\U" ++ Numeral.hexadecimal 8 c.val

/-- How a code point of a text is shown between quotes. -/
def quotedCodePoint (quote c : CodePoint) : Text :=
  (commonEscape? quote c).getD (if c.isPrintable then [c] else numericEscape c)

/-- How a byte is shown between quotes: only printable ASCII is shown as it is. -/
def quotedByte (quote : CodePoint) (b : UInt8) : Text :=
  let c := CodePoint.ofByte b
  (commonEscape? quote c).getD (if c.inRange 0x20 0x7E then [c] else numericEscape c)

/-- A **text between quotes**. -/
def quoted (t : Text) : Text :=
  t.quote :: t.flatMap (quotedCodePoint t.quote) ++ [t.quote]

/-- **Bytes between quotes**. -/
def quotedBytes (bytes : List UInt8) : Text :=
  let quote := quote (bytes.map CodePoint.ofByte)
  quote :: bytes.flatMap (quotedByte quote) ++ [quote]

/-- **A byte buffer between quotes**: as for bytes, but a single quote inside is escaped whichever
quote stands outside. -/
def quotedBuffer (bytes : List UInt8) : Text :=
  let quote := quote (bytes.map CodePoint.ofByte)
  quote :: bytes.flatMap (quotedByte '\'') ++ [quote]

end TimeWindow.Text
