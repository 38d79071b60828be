import TimeWindow.Proofs.Numeral.Digits
import TimeWindow.Proofs.Outcome
import TimeWindow.Value.Written

set_option autoImplicit false

/-!
# Which values have written forms

A value has a written form if none of the integers in it has more digits than are written. Objects
that stand for an index are the exception: what they hold is shown in its readable form if it has
one, and an interval has one only if it lies within the calendar.

## Main definitions

* `TimeWindow.Value.IsWritten` — a value has a written form.
* `TimeWindow.Value.Printable` — the integers in a value are within the digit limit.
* `TimeWindow.Value.Displayable` — a value has a readable form.

## Main results

* `TimeWindow.Value.isWritten_iff_printable` — the values that have a written form.
* `TimeWindow.Value.exists_display_iff` — the values that have a readable form.
-/

namespace TimeWindow.Value

open Outcome

/-! ## Written forms of parts -/

/-- A value **has a written form**. -/
def IsWritten (v : Value) : Prop :=
  ∃ t, v.written = .ok t

/-- Texts have written forms. -/
theorem isWritten_text (t : Text) : IsWritten (.text t) :=
  ⟨_, by rw [written]⟩

/-- Integers have written forms up to the digit limit. -/
theorem isWritten_int {n : Int} (h : Numeral.WithinLimit n) : IsWritten (.int n) :=
  ⟨_, by rw [written]; exact Numeral.int?_eq_ok_iff.2 ⟨h, rfl⟩⟩

/-- Values are written one after another if each of them has a written form. -/
theorem exists_writtenAll {items : List Value} (h : ∀ v ∈ items, IsWritten v) :
    ∃ texts, writtenAll items = .ok texts := by
  induction items with
  | nil => exact ⟨[], by rw [writtenAll]⟩
  | cons v rest ih =>
    obtain ⟨text, htext⟩ := h v (by simp)
    obtain ⟨texts, htexts⟩ := ih fun w hw => h w (by simp [hw])
    exact ⟨text :: texts, by rw [writtenAll, htext, htexts]; rfl⟩

/-- Entries are written one after another if each key and each value has a written form. -/
theorem exists_writtenEntries {entries : List (Value × Value)}
    (h : ∀ entry ∈ entries, IsWritten entry.1 ∧ IsWritten entry.2) :
    ∃ texts, writtenEntries entries = .ok texts := by
  induction entries with
  | nil => exact ⟨[], by rw [writtenEntries]⟩
  | cons entry rest ih =>
    obtain ⟨⟨key, hkey⟩, value, hvalue⟩ := h entry (by simp)
    obtain ⟨texts, htexts⟩ := ih fun e he => h e (by simp [he])
    exact ⟨Text.concat [key, ": ", value] :: texts, by
      rw [writtenEntries, hkey, hvalue, htexts]; rfl⟩

/-- **A sequence has a written form** if its items have. -/
theorem isWritten_list {items : List Value} (h : ∀ v ∈ items, IsWritten v) :
    IsWritten (.list items) := by
  obtain ⟨texts, htexts⟩ := exists_writtenAll h
  exact ⟨bracketed "[" "]" texts, by rw [written, htexts]; rfl⟩

/-- **A mapping has a written form** if its keys and values have. -/
theorem isWritten_dict {entries : List (Value × Value)}
    (h : ∀ entry ∈ entries, IsWritten entry.1 ∧ IsWritten entry.2) :
    IsWritten (.dict entries) := by
  obtain ⟨texts, htexts⟩ := exists_writtenEntries h
  exact ⟨bracketed "\x7b" "\x7d" texts, by rw [written, htexts]; rfl⟩

/-! ## Printable values -/

/-- A value is **printable** if all integers in it are within the digit limit, and if the intervals
that objects in it stand for have readable forms. -/
inductive Printable : Value → Prop
  | none : Printable .none
  | bool (b : Bool) : Printable (.bool b)
  | int {n : Int} (h : Numeral.WithinLimit n) : Printable (.int n)
  | float (x : Binary64) : Printable (.float x)
  | text (t : Text) : Printable (.text t)
  | bytes (bs : List UInt8) : Printable (.bytes bs)
  | buffer (bs : List UInt8) : Printable (.buffer bs)
  | list {items : List Value} (h : ∀ v ∈ items, Printable v) : Printable (.list items)
  | tuple {items : List Value} (h : ∀ v ∈ items, Printable v) : Printable (.tuple items)
  | dict {entries : List (Value × Value)} (keys : ∀ entry ∈ entries, Printable entry.1)
      (values : ∀ entry ∈ entries, Printable entry.2) : Printable (.dict entries)
  /-- An object that stands for a value with a readable form of its own. -/
  | indexReadable {identity : Identity} {v : Value} {t : Text} (h : v.readable? = some (.ok t)) :
      Printable (.indexLike identity v)
  /-- An object that stands for any other value. -/
  | indexWritten {identity : Identity} {v : Value} (h : v.readable? = Option.none)
      (hv : Printable v) : Printable (.indexLike identity v)
  | column {words : List Int} (h : ∀ n ∈ words, Numeral.WithinLimit n) :
      Printable (.column words)
  | span (s : Calendar.Span) : Printable (.span s)
  | moment (m : Moment) : Printable (.moment m)
  | interval {a b : Value} (ha : Printable a) (hb : Printable b) : Printable (.interval a b)
  | labeled {a b l : Value} (ha : Printable a) (hb : Printable b) (hl : Printable l) :
      Printable (.labeled a b l)

/-- Integers have numerals if all of them are within the digit limit. -/
theorem exists_mapM_int?_iff {words : List Int} :
    (∃ texts, words.mapM Numeral.int? = .ok texts) ↔ ∀ n ∈ words, Numeral.WithinLimit n := by
  simp only [exists_mapM_iff, Numeral.int?_eq_ok_iff, exists_and_left, exists_eq', and_true]
  rfl

/-- **Printable values have written forms.** -/
theorem Printable.isWritten {v : Value} (h : v.Printable) : v.IsWritten := by
  induction h with
  | none => exact ⟨_, by rw [written]⟩
  | bool b => exact ⟨_, by rw [written]⟩
  | int h => exact isWritten_int h
  | float x => exact ⟨_, by rw [written]⟩
  | text t => exact isWritten_text t
  | bytes bs => exact ⟨_, by rw [written]⟩
  | buffer bs => exact ⟨_, by rw [written]⟩
  | list _ ih => exact isWritten_list ih
  | tuple _ ih =>
    obtain ⟨texts, htexts⟩ := exists_writtenAll ih
    exact ⟨writtenTuple texts, by rw [written, htexts]; rfl⟩
  | dict _ _ ihk ihv => exact isWritten_dict fun entry he => ⟨ihk entry he, ihv entry he⟩
  | indexReadable h => exact ⟨_, by rw [written, h]; rfl⟩
  | indexWritten h _ ih =>
    obtain ⟨t, ht⟩ := ih
    exact ⟨_, by rw [written, h, Option.getD_none, ht]; rfl⟩
  | @column words h =>
    cases words with
    | nil => exact ⟨_, by rw [written]⟩
    | cons n rest =>
      obtain ⟨texts, htexts⟩ := exists_mapM_int?_iff.2 h
      exact ⟨_, by rw [written, htexts]; rfl; simp⟩
  | span s => exact ⟨_, by rw [written]⟩
  | moment m => exact ⟨_, by rw [written]⟩
  | interval _ _ iha ihb =>
    obtain ⟨a, ha⟩ := iha
    obtain ⟨b, hb⟩ := ihb
    exact ⟨_, by rw [written, ha, hb]; rfl⟩
  | labeled _ _ _ iha ihb ihl =>
    obtain ⟨a, ha⟩ := iha
    obtain ⟨b, hb⟩ := ihb
    obtain ⟨l, hl⟩ := ihl
    exact ⟨_, by rw [written, ha, hb, hl]; rfl⟩

mutual

/-- **Values with written forms are printable.** -/
theorem printable_of_isWritten : ∀ v : Value, v.IsWritten → v.Printable
  | .none => fun _ => .none
  | .bool b => fun _ => .bool b
  | .int n => fun h => by
    obtain ⟨t, h⟩ := h
    rw [written] at h
    exact .int (Numeral.int?_eq_ok_iff.1 h).1
  | .float x => fun _ => .float x
  | .text t => fun _ => .text t
  | .bytes bs => fun _ => .bytes bs
  | .buffer bs => fun _ => .buffer bs
  | .list items => fun h => by
    obtain ⟨_, h⟩ := h
    rw [written] at h
    obtain ⟨texts, htexts, -⟩ := bind_eq_ok_iff.1 h
    exact .list (printable_of_writtenAll items ⟨texts, htexts⟩)
  | .tuple items => fun h => by
    obtain ⟨_, h⟩ := h
    rw [written] at h
    obtain ⟨texts, htexts, -⟩ := bind_eq_ok_iff.1 h
    exact .tuple (printable_of_writtenAll items ⟨texts, htexts⟩)
  | .dict entries => fun h => by
    obtain ⟨_, h⟩ := h
    rw [written] at h
    obtain ⟨texts, htexts, -⟩ := bind_eq_ok_iff.1 h
    have hall := printable_of_writtenEntries entries ⟨texts, htexts⟩
    exact .dict (fun entry he => (hall entry he).1) fun entry he => (hall entry he).2
  | .indexLike identity v => fun h => by
    obtain ⟨_, h⟩ := h
    rw [written] at h
    obtain ⟨t, ht, -⟩ := bind_eq_ok_iff.1 h
    cases hread : v.readable? with
    | none =>
      rw [hread, Option.getD_none] at ht
      exact .indexWritten hread (printable_of_isWritten v ⟨t, ht⟩)
    | some shown =>
      rw [hread, Option.getD_some] at ht
      exact .indexReadable (hread.trans (congrArg some ht))
  | .column [] => fun _ => .column (by simp)
  | .column (n :: rest) => fun h => by
    obtain ⟨_, h⟩ := h
    rw [written] at h
    · obtain ⟨texts, htexts, -⟩ := bind_eq_ok_iff.1 h
      exact .column (exists_mapM_int?_iff.1 ⟨texts, htexts⟩)
    · simp
  | .span s => fun _ => .span s
  | .moment m => fun _ => .moment m
  | .interval a b => fun h => by
    obtain ⟨_, h⟩ := h
    rw [written] at h
    obtain ⟨s, hs, h⟩ := bind_eq_ok_iff.1 h
    obtain ⟨t, ht, -⟩ := bind_eq_ok_iff.1 h
    exact .interval (printable_of_isWritten a ⟨s, hs⟩) (printable_of_isWritten b ⟨t, ht⟩)
  | .labeled a b l => fun h => by
    obtain ⟨_, h⟩ := h
    rw [written] at h
    obtain ⟨s, hs, h⟩ := bind_eq_ok_iff.1 h
    obtain ⟨t, ht, h⟩ := bind_eq_ok_iff.1 h
    obtain ⟨u, hu, -⟩ := bind_eq_ok_iff.1 h
    exact .labeled (printable_of_isWritten a ⟨s, hs⟩) (printable_of_isWritten b ⟨t, ht⟩)
      (printable_of_isWritten l ⟨u, hu⟩)

/-- Items with written forms are printable. -/
theorem printable_of_writtenAll : ∀ items : List Value,
    (∃ texts, writtenAll items = .ok texts) → ∀ v ∈ items, v.Printable
  | [] => fun _ => by simp
  | v :: rest => fun h => by
    obtain ⟨_, h⟩ := h
    rw [writtenAll] at h
    obtain ⟨t, ht, h⟩ := bind_eq_ok_iff.1 h
    obtain ⟨texts, htexts, -⟩ := bind_eq_ok_iff.1 h
    exact List.forall_mem_cons.2
      ⟨printable_of_isWritten v ⟨t, ht⟩, printable_of_writtenAll rest ⟨texts, htexts⟩⟩

/-- Keys and values with written forms are printable. -/
theorem printable_of_writtenEntries : ∀ entries : List (Value × Value),
    (∃ texts, writtenEntries entries = .ok texts) →
      ∀ entry ∈ entries, entry.1.Printable ∧ entry.2.Printable
  | [] => fun _ => by simp
  | (key, value) :: rest => fun h => by
    obtain ⟨_, h⟩ := h
    rw [writtenEntries] at h
    obtain ⟨k, hk, h⟩ := bind_eq_ok_iff.1 h
    obtain ⟨v, hv, h⟩ := bind_eq_ok_iff.1 h
    obtain ⟨texts, htexts, -⟩ := bind_eq_ok_iff.1 h
    exact List.forall_mem_cons.2
      ⟨⟨printable_of_isWritten key ⟨k, hk⟩, printable_of_isWritten value ⟨v, hv⟩⟩,
        printable_of_writtenEntries rest ⟨texts, htexts⟩⟩

end

/-- **The values that have a written form** are the printable ones. -/
theorem isWritten_iff_printable {v : Value} : v.IsWritten ↔ v.Printable :=
  ⟨printable_of_isWritten v, Printable.isWritten⟩

/-! ## Readable forms -/

/-- A value is **displayable** if it has a readable form of its own, or else is printable. -/
def Displayable (v : Value) : Prop :=
  (∃ t, v.readable? = some (.ok t)) ∨ (v.readable? = Option.none ∧ v.Printable)

/-- **The values that have a readable form** are the displayable ones. -/
theorem exists_display_iff {v : Value} : (∃ t, v.display = .ok t) ↔ v.Displayable := by
  unfold display Displayable
  cases hread : v.readable? with
  | none => simp [← isWritten_iff_printable, IsWritten]
  | some shown => simp

/-- Texts are displayable. -/
theorem displayable_text (t : Text) : Displayable (.text t) :=
  .inl ⟨t, rfl⟩

end TimeWindow.Value
