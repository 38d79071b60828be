import TimeWindow.Json.Reading.Document
import TimeWindow.Proofs.Numeral.Digits

set_option autoImplicit false

/-!
# Spellings of documents

A document as somebody has written it down: which escapes stand in its quoted texts, how its numbers
are spelled, which blanks stand between its parts, and all members of its objects, repeated names
included. A spelling has a text, and it says a document; both are given by recursion over the
spelling, so that what is written says nothing about how it is read.

## Main definitions

* `TimeWindow.Json.Piece`, `TimeWindow.Json.unescaped` — the pieces of a quoted text, and the text
  that they stand for.
* `TimeWindow.Json.NumberSpelling` — a number as it may be written.
* `TimeWindow.Json.Spelling` — a document as it may be written.
* `TimeWindow.Json.Spelling.text`, `TimeWindow.Json.Spelling.meaning` — what is written, and what it
  says.
* `TimeWindow.Json.Spelling.depth` — how many containers are open at once.
-/

namespace TimeWindow.Json

/-! ## Blanks -/

/-- A **blank** of a document. -/
inductive Blank where
  | space
  | tab
  | lineFeed
  | carriageReturn
deriving DecidableEq

/-- The code point of a blank. -/
def Blank.point : Blank → CodePoint
  | .space => ' '
  | .tab => '\t'
  | .lineFeed => '\n'
  | .carriageReturn => '\r'

/-- Something **with blanks around it**. -/
structure Padded (α : Type) where
  before : List Blank
  content : α
  after : List Blank

/-- The text of something with blanks around it. -/
def Padded.text {α : Type} (text : α → Text) (p : Padded α) : Text :=
  p.before.map Blank.point ++ (text p.content ++ p.after.map Blank.point)

/-! ## Quoted texts -/

/-- A **hexadecimal digit** in either case. -/
structure HexDigit where
  value : Fin 16
  capital : Bool
deriving DecidableEq

/-- The code point of a hexadecimal digit. -/
def HexDigit.point (d : HexDigit) : CodePoint :=
  if d.capital ∧ 10 ≤ (d.value : Nat) then ⟨0x37 + d.value, by omega⟩ else .ofHexDigit d.value

/-- A **unit**: the four hexadecimal digits of an escape. -/
structure CodeUnit where
  first : HexDigit
  second : HexDigit
  third : HexDigit
  fourth : HexDigit
deriving DecidableEq

namespace CodeUnit

/-- The number of a unit. -/
def value (u : CodeUnit) : Nat :=
  ((u.first.value * 16 + u.second.value) * 16 + u.third.value) * 16 + u.fourth.value

/-- The digits of a unit. -/
def digits (u : CodeUnit) : Text :=
  [u.first.point, u.second.point, u.third.point, u.fourth.point]

end CodeUnit

/-- The escapes that are **one letter** after a backslash. -/
inductive LetterEscape where
  | quote
  | backslash
  | slash
  | backspace
  | formFeed
  | lineFeed
  | carriageReturn
  | tab
deriving DecidableEq

namespace LetterEscape

/-- The letter of an escape. -/
def letter : LetterEscape → CodePoint
  | .quote => '"'
  | .backslash => '\\'
  | .slash => '/'
  | .backspace => 'b'
  | .formFeed => 'f'
  | .lineFeed => 'n'
  | .carriageReturn => 'r'
  | .tab => 't'

/-- The code point that an escape stands for. -/
def point : LetterEscape → CodePoint
  | .quote => '"'
  | .backslash => '\\'
  | .slash => '/'
  | .backspace => CodePoint.ofNat 0x08
  | .formFeed => CodePoint.ofNat 0x0C
  | .lineFeed => '\n'
  | .carriageReturn => '\r'
  | .tab => '\t'

end LetterEscape

/-- A code point that may stand in a quoted text **as it is**: neither a control character nor one
with a meaning there. -/
def IsPlain (c : CodePoint) : Prop :=
  0x20 ≤ c.val ∧ c ≠ CodePoint.ofChar '"' ∧ c ≠ CodePoint.ofChar '\\'

/-- A **piece** of a quoted text. -/
inductive Piece where
  | plain (c : CodePoint) (isPlain : IsPlain c)
  | letter (e : LetterEscape)
  | unit (u : CodeUnit)

/-- The text of a piece. -/
def Piece.text : Piece → Text
  | .plain c _ => [c]
  | .letter e => ['\\', e.letter]
  | .unit u => CodePoint.ofChar '\\' :: CodePoint.ofChar 'u' :: u.digits

/-- The text of pieces between double quotes. -/
def quotedText (pieces : List Piece) : Text :=
  CodePoint.ofChar '"' :: (pieces.flatMap Piece.text ++ [CodePoint.ofChar '"'])

/-- The text that pieces **stand for**. Two units in a row that are a pair of surrogates are one
code point, the leftmost pairs first; any other unit is a code point of its own. -/
def unescaped : List Piece → Text
  | [] => []
  | .plain c _ :: rest => c :: unescaped rest
  | .letter e :: rest => e.point :: unescaped rest
  | .unit u :: .unit v :: rest =>
    if Encoding.isHighSurrogate u.value ∧ Encoding.isLowSurrogate v.value then
      Encoding.joinSurrogates u.value v.value :: unescaped rest
    else .ofNat u.value :: unescaped (.unit v :: rest)
  | .unit u :: rest => .ofNat u.value :: unescaped rest

/-! ## Numbers -/

/-- The text of digits. -/
def digitsText (digits : List (Fin 10)) : Text :=
  digits.map fun d : Fin 10 => CodePoint.ofDigit d

/-- The number that digits denote. -/
def digitsValue (digits : List (Fin 10)) : Nat :=
  Numeral.value (digits.map Fin.val)

/-- The sign of an exponent, which may be left out. -/
inductive ExponentSign where
  | none
  | plus
  | minus
deriving DecidableEq

/-- The text of a sign. -/
def ExponentSign.text : ExponentSign → Text
  | .none => []
  | .plus => "+"
  | .minus => "-"

/-- An **exponent as it may be written**. -/
structure ExponentSpelling where
  capital : Bool
  sign : ExponentSign
  digits : List (Fin 10)
  digits_ne_nil : digits ≠ []

namespace ExponentSpelling

/-- The text of an exponent. -/
def text (e : ExponentSpelling) : Text :=
  CodePoint.ofChar (if e.capital then 'E' else 'e') :: (e.sign.text ++ digitsText e.digits)

/-- The number of an exponent. -/
def number (e : ExponentSpelling) : Int :=
  if e.sign = .minus then -digitsValue e.digits else digitsValue e.digits

end ExponentSpelling

/-- A **number as it may be written**: digits without a zero in front of others, then a fraction and
an exponent, each of which may be left out. If both are, there are no more digits than can be
read. -/
structure NumberSpelling where
  negative : Bool
  whole : List (Fin 10)
  /-- The digits after the point; there is no point if there are none. -/
  fraction : List (Fin 10)
  exponent : Option ExponentSpelling
  whole_ne_nil : whole ≠ []
  whole_of_zero : whole.head? = some 0 → whole = [0]
  whole_length_le : fraction = [] ∧ exponent = none → whole.length ≤ Numeral.digitLimit

namespace NumberSpelling

/-- The text of a fraction: nothing if there are no digits. -/
def fractionText (n : NumberSpelling) : Text :=
  if n.fraction = [] then [] else CodePoint.ofChar '.' :: digitsText n.fraction

/-- The text of the exponent, if there is one. -/
def exponentText (n : NumberSpelling) : Text :=
  (n.exponent.map ExponentSpelling.text).getD []

/-- The text of a number after its sign. -/
def unsignedText (n : NumberSpelling) : Text :=
  digitsText n.whole ++ (n.fractionText ++ n.exponentText)

/-- The **text of a number**. -/
def text (n : NumberSpelling) : Text :=
  (if n.negative then Text.ofString "-" else []) ++ n.unsignedText

/-- The integer that the digits before the point denote, with the sign. -/
def signedWhole (n : NumberSpelling) : Int :=
  if n.negative then -digitsValue n.whole else digitsValue n.whole

/-- The **integer that is written**, if neither a fraction nor an exponent is. -/
def integer? (n : NumberSpelling) : Option Int :=
  if n.fraction = [] ∧ n.exponent = none then some n.signedWhole else none

/-- What a number says: an integer, or the binary number nearest to the decimal one. -/
def meaning (n : NumberSpelling) : Json :=
  match n.integer? with
  | some i => .int i
  | none => .float (.ofDecimal n.negative (digitsValue (n.whole ++ n.fraction))
      ((n.exponent.map ExponentSpelling.number).getD 0 - n.fraction.length))

end NumberSpelling

/-! ## Words -/

/-- The **words** of documents. -/
inductive Word where
  | null
  | true
  | false
  | nan
  | infinity
  | minusInfinity
deriving DecidableEq

/-- The text of a word. -/
def Word.text : Word → Text
  | .null => "null"
  | .true => "true"
  | .false => "false"
  | .nan => "NaN"
  | .infinity => "Infinity"
  | .minusInfinity => "-Infinity"

/-- What a word says. -/
def Word.meaning : Word → Json
  | .null => .null
  | .true => .bool Bool.true
  | .false => .bool Bool.false
  | .nan => .float (.nan 0)
  | .infinity => .float (.infinity Bool.false)
  | .minusInfinity => .float (.infinity Bool.true)

/-! ## Documents -/

/-- A **member** of an object: its name and its value, and the blanks around the colon. -/
structure Member (α : Type) where
  name : List Piece
  beforeColon : List Blank
  afterColon : List Blank
  value : α

/-- The text of a member. -/
def Member.text {α : Type} (text : α → Text) (m : Member α) : Text :=
  quotedText m.name ++ (m.beforeColon.map Blank.point ++
    (CodePoint.ofChar ':' :: (m.afterColon.map Blank.point ++ text m.value)))

/-- A **document as it may be written**. The blanks inside a container stand behind its opening
bracket; they are the only ones in an empty one. -/
inductive Spelling where
  | word (w : Word)
  | number (n : NumberSpelling)
  | quoted (pieces : List Piece)
  | array (inside : List Blank) (items : List (Padded Spelling))
  | object (inside : List Blank) (members : List (Padded (Member Spelling)))

/-- Parts of a container between its brackets, with commas between them. -/
def bracketedText (opening closing : CodePoint) (inside : List Blank) (parts : List Text) : Text :=
  opening :: (inside.map Blank.point ++ (Text.separated "," parts ++ [closing]))

namespace Spelling

mutual

/-- The **text of a spelling**. -/
def text : Spelling → Text
  | .word w => w.text
  | .number n => n.text
  | .quoted pieces => quotedText pieces
  | .array inside items => bracketedText '[' ']' inside (itemTexts items)
  | .object inside members => bracketedText '\x7b' '\x7d' inside (memberTexts members)

/-- The texts of items, in order. -/
def itemTexts : List (Padded Spelling) → List Text
  | [] => []
  | ⟨before, s, after⟩ :: rest =>
    (before.map Blank.point ++ (s.text ++ after.map Blank.point)) :: itemTexts rest

/-- The texts of members, in order. -/
def memberTexts : List (Padded (Member Spelling)) → List Text
  | [] => []
  | ⟨before, ⟨name, beforeColon, afterColon, s⟩, after⟩ :: rest =>
    (before.map Blank.point ++ ((quotedText name ++ (beforeColon.map Blank.point ++
      (CodePoint.ofChar ':' :: (afterColon.map Blank.point ++ s.text)))) ++
        after.map Blank.point)) :: memberTexts rest

end

mutual

/-- The **meaning of a spelling**: the document that it says. -/
def meaning : Spelling → Json
  | .word w => w.meaning
  | .number n => n.meaning
  | .quoted pieces => .text (unescaped pieces)
  | .array _ items => .array (itemMeanings items)
  | .object _ members => .object (memberMeanings members)

/-- The meanings of items, in order. -/
def itemMeanings : List (Padded Spelling) → List Json
  | [] => []
  | ⟨_, s, _⟩ :: rest => s.meaning :: itemMeanings rest

/-- The names of members and the meanings of their values, in order. -/
def memberMeanings : List (Padded (Member Spelling)) → List (Text × Json)
  | [] => []
  | ⟨_, ⟨name, _, _, s⟩, _⟩ :: rest => (unescaped name, s.meaning) :: memberMeanings rest

end

mutual

/-- The **depth of a spelling**: how many containers are open at once. -/
def depth : Spelling → Nat
  | .word _ | .number _ | .quoted _ => 0
  | .array _ items => itemDepth items + 1
  | .object _ members => memberDepth members + 1

/-- The greatest depth of items. -/
def itemDepth : List (Padded Spelling) → Nat
  | [] => 0
  | ⟨_, s, _⟩ :: rest => max s.depth (itemDepth rest)

/-- The greatest depth of the values of members. -/
def memberDepth : List (Padded (Member Spelling)) → Nat
  | [] => 0
  | ⟨_, ⟨_, _, _, s⟩, _⟩ :: rest => max s.depth (memberDepth rest)

end

/-! ## Parts of containers -/

theorem itemTexts_eq_map (items : List (Padded Spelling)) :
    itemTexts items = items.map (Padded.text text) := by
  induction items with
  | nil => rfl
  | cons item rest ih => rw [itemTexts, ih]; rfl

theorem memberTexts_eq_map (members : List (Padded (Member Spelling))) :
    memberTexts members = members.map (Padded.text (Member.text text)) := by
  induction members with
  | nil => rfl
  | cons m rest ih => rw [memberTexts, ih]; rfl

theorem itemMeanings_eq_map (items : List (Padded Spelling)) :
    itemMeanings items = items.map fun item => item.content.meaning := by
  induction items with
  | nil => rfl
  | cons item rest ih => rw [itemMeanings, ih]; rfl

theorem memberMeanings_eq_map (members : List (Padded (Member Spelling))) :
    memberMeanings members =
      members.map fun m => (unescaped m.content.name, m.content.value.meaning) := by
  induction members with
  | nil => rfl
  | cons m rest ih => rw [memberMeanings, ih]; rfl

theorem itemDepth_le_iff {items : List (Padded Spelling)} {n : Nat} :
    itemDepth items ≤ n ↔ ∀ item ∈ items, item.content.depth ≤ n := by
  induction items with
  | nil => simp [itemDepth]
  | cons item rest ih => rw [itemDepth, Nat.max_le, ih, List.forall_mem_cons]

theorem memberDepth_le_iff {members : List (Padded (Member Spelling))} {n : Nat} :
    memberDepth members ≤ n ↔ ∀ m ∈ members, m.content.value.depth ≤ n := by
  induction members with
  | nil => simp [memberDepth]
  | cons m rest ih => rw [memberDepth, Nat.max_le, ih, List.forall_mem_cons]

end Spelling

end TimeWindow.Json
