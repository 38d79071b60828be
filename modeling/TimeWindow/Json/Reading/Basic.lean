import TimeWindow.Json.Document
import TimeWindow.Json.Fault

set_option autoImplicit false

/-!
# Readers

A reader takes something from the front of a text and gives it with the rest. The rest is shorter
than the text, which is why reading ends. A reader that stops says how much of the text was unread
at the place that it complains about.

## Main definitions

* `TimeWindow.Json.Stop` — why and where a reader stops.
* `TimeWindow.Json.Read` — what a reader gives.
* `TimeWindow.Json.Reader` — readers.
* `TimeWindow.Json.skipBlanks` — a text from its first code point that is not blank.
* `TimeWindow.Json.sequence` — the reader of items between brackets.

## Main results

* `TimeWindow.Json.length_skipBlanks_le` — skipping blanks makes no text longer.
-/

namespace TimeWindow.Json

/-! ## Readers -/

/-- A **stop**: why reading ended before the end. -/
inductive Stop where
  /-- The grammar is broken where so many code points are left. -/
  | complaint (complaint : Complaint) (unread : Nat)
  /-- An integer has so many digits. -/
  | digits (count : Nat)
  /-- A container is nested too deeply. -/
  | nesting (container : Container)
deriving DecidableEq

/-- **What a reader gives** on a text: something, and the rest, which is shorter. -/
structure Read (α : Type) (s : Text) where
  value : α
  rest : Text
  shorter : rest.length < s.length

/-- A **reader**. -/
abbrev Reader (α : Type) : Type :=
  (s : Text) → Except Stop (Read α s)

/-- The same rest with something made from what was read. -/
def Read.map {α β : Type} {s : Text} (f : α → β) (r : Read α s) : Read β s :=
  ⟨f r.value, r.rest, r.shorter⟩

/-- What was read from the end of a text was read from the text. -/
def Read.widen {α : Type} {s t : Text} (r : Read α s) (h : s.length ≤ t.length) : Read α t :=
  ⟨r.value, r.rest, Nat.lt_of_lt_of_le r.shorter h⟩

/-! ## Blanks -/

/-- The **blanks** of a document: space, tab, line feed and carriage return. -/
def isBlank (c : CodePoint) : Bool :=
  c == CodePoint.ofChar ' ' || c == CodePoint.ofChar '\t' || c == CodePoint.ofChar '\n' ||
    c == CodePoint.ofChar '\r'

/-- A text from its first code point that is not blank. -/
def skipBlanks (s : Text) : Text :=
  s.dropWhile isBlank

/-- **Skipping blanks** makes no text longer. -/
theorem length_skipBlanks_le (s : Text) : (skipBlanks s).length ≤ s.length :=
  (List.dropWhile_sublist isBlank).length_le

/-- What follows a code point is no longer than the text with it. -/
theorem length_le_cons (c : CodePoint) (t : Text) : t.length ≤ (c :: t).length :=
  Nat.le_succ _

/-! ## Sequences -/

/-- The reader of one item or more with commas between them, up to a closing bracket. -/
def items {α : Type} (closing : CodePoint) (item : Reader α) : Reader (List α) := fun s =>
  match item s with
  | .error stop => .error stop
  | .ok ⟨x, r, hr⟩ =>
    match h : skipBlanks r with
    | [] => .error (.complaint .comma 0)
    | c :: t =>
      have ht : t.length < s.length := by
        have := length_skipBlanks_le r
        rw [h, List.length_cons] at this
        omega
      if c = closing then .ok ⟨[x], t, ht⟩
      else if c = CodePoint.ofChar ',' then
        have hs : (skipBlanks t).length < s.length :=
          Nat.lt_of_le_of_lt (length_skipBlanks_le t) ht
        match items closing item (skipBlanks t) with
        | .error stop => .error stop
        | .ok more => .ok ((more.map (x :: ·)).widen (Nat.le_of_lt hs))
      else .error (.complaint .comma (t.length + 1))
termination_by s => s.length

/-- The **reader of a sequence** whose opening bracket has been read: nothing, or items, up to the
closing bracket. -/
def sequence {α : Type} (closing : CodePoint) (item : Reader α) : Reader (List α) := fun s =>
  match h : skipBlanks s with
  | [] => (items closing item []).map fun r => r.widen (Nat.zero_le _)
  | c :: t =>
    have hs : (c :: t).length ≤ s.length := h ▸ length_skipBlanks_le s
    if c = closing then .ok ⟨[], t, hs⟩
    else (items closing item (c :: t)).map fun r => r.widen hs

end TimeWindow.Json
