import TimeWindow.Proofs.Json.Limit
import TimeWindow.Proofs.Json.Spelling

set_option autoImplicit false

/-!
# What spellings say, as values

The value that a spelled document denotes. An object is a mapping from the names of its members, in
which the last member with a name counts; a value is an integer exactly if an integer is written,
without fraction and exponent. All of it has a written form, because no integer is longer than can
be read.

## Main definitions

* `TimeWindow.Json.Spelling.value` — the value of a spelling.
* `TimeWindow.Json.Spelling.integer?` — the integer that a spelling writes.
* `TimeWindow.Json.Spelling.lastValue?`, `TimeWindow.Json.Spelling.lastInteger?` — the value of the
  last member with a name, and the integer that it writes.

## Main results

* `TimeWindow.Json.Spelling.lookup?_entries` — the mapping of an object has the last member with a
  name.
* `TimeWindow.Json.Spelling.value_eq_int_iff` — the spellings that are integers.
* `TimeWindow.Json.Spelling.withinLimit_meaning` — what a spelling says is within the digit limit.
-/

namespace TimeWindow.Json

open Value (HasTextKeys IsWritten lookup?)

namespace Spelling

/-! ## Values of spellings -/

/-- The **value of a spelling**. -/
def value (s : Spelling) : Value :=
  s.meaning.toValue

/-- The **integer that a spelling writes**: a number without fraction and exponent. -/
def integer? : Spelling → Option Int
  | .number n => n.integer?
  | _ => none

/-- The value of the **last member with a name**. -/
def lastValue? (key : Text) (members : List (Padded (Member Spelling))) : Option Spelling :=
  (members.reverse.find? fun m => unescaped m.content.name = key).map fun m => m.content.value

/-- The integer that the **last member with a name** writes. -/
def lastInteger? (key : Text) (members : List (Padded (Member Spelling))) : Option Int :=
  (lastValue? key members).bind integer?

/-- **A spelling is an integer** exactly if it writes one. -/
theorem value_eq_int_iff {s : Spelling} {n : Int} : s.value = .int n ↔ s.integer? = some n := by
  cases s with
  | word w => cases w <;> simp [value, meaning, Word.meaning, toValue, integer?]
  | number m =>
    simp only [value, meaning, NumberSpelling.meaning, integer?]
    cases m.integer? <;> simp [toValue]
  | quoted pieces => simp [value, meaning, toValue, integer?]
  | array inside items => simp [value, meaning, toValue, integer?]
  | object inside members => simp [value, meaning, toValue, integer?]

/-- The entries of a spelled object. -/
def entries (members : List (Padded (Member Spelling))) : List (Value × Value) :=
  toEntries [] (memberMeanings members)

theorem hasTextKeys_entries (members : List (Padded (Member Spelling))) :
    HasTextKeys (entries members) :=
  hasTextKeys_toEntries (fun _ h => absurd h (by simp)) _

/-- **The mapping of an object** has the value of the last member with a name under that name. -/
theorem lookup?_entries (key : Text) (members : List (Padded (Member Spelling))) :
    lookup? (.text key) (entries members) = (lastValue? key members).map value := by
  rw [entries, lookup?_toEntries (fun _ h => absurd h (by simp)), memberMeanings_eq_map,
    ← List.map_reverse, List.find?_map, lastValue?]
  simp only [Option.map_map, lookup?, List.find?_nil, Option.map_none, Option.or_none]
  rfl

/-- An integer is under a name in the mapping of an object exactly if the last member with the name
writes it. -/
theorem lookup?_entries_eq_int_iff {key : Text} {members : List (Padded (Member Spelling))}
    {n : Int} :
    lookup? (.text key) (entries members) = some (.int n) ↔ lastInteger? key members = some n := by
  rw [lookup?_entries, lastInteger?]
  cases lastValue? key members with
  | none => simp
  | some s => rw [Option.map_some, Option.some.injEq, value_eq_int_iff]; rfl

/-! ## Written forms -/

/-- An integer that a spelling writes is within the digit limit. -/
theorem withinLimit_of_integer? {m : NumberSpelling} {n : Int} (h : m.integer? = some n) :
    Numeral.WithinLimit n := by
  unfold NumberSpelling.integer? at h
  split at h
  · next hint =>
    cases h
    have hdigits : ∀ d ∈ m.whole.map Fin.val, d < 10 := by
      intro d hd
      obtain ⟨e, -, rfl⟩ := List.mem_map.1 hd
      exact e.isLt
    refine Numeral.withinLimit_of_digits hdigits ?_ ?_
    · rw [List.length_map]
      exact m.whole_length_le hint
    · unfold NumberSpelling.signedWhole
      rw [← digitsValue]
      split <;> simp
  · cases h

mutual

/-- **What a spelling says** is within the digit limit. -/
theorem withinLimit_meaning : ∀ s : Spelling, s.meaning.WithinLimit
  | .word w => by
    rw [meaning]
    cases w with
    | null => exact .null
    | true => exact .bool _
    | false => exact .bool _
    | nan => exact .float _
    | infinity => exact .float _
    | minusInfinity => exact .float _
  | .number m => by
    rw [meaning, NumberSpelling.meaning]
    split
    · next n hn => exact .int (withinLimit_of_integer? hn)
    · exact .float _
  | .quoted pieces => by
    rw [meaning]
    exact .text _
  | .array _ items => by
    rw [meaning]
    exact .array (withinLimit_itemMeanings items)
  | .object _ members => by
    rw [meaning]
    exact .object (withinLimit_memberMeanings members)

/-- What items say is within the digit limit. -/
theorem withinLimit_itemMeanings : ∀ items : List (Padded Spelling),
    ∀ j ∈ itemMeanings items, j.WithinLimit
  | [] => by simp [itemMeanings]
  | ⟨_, s, _⟩ :: rest => by
    rw [itemMeanings, List.forall_mem_cons]
    exact ⟨withinLimit_meaning s, withinLimit_itemMeanings rest⟩

/-- What the values of members say is within the digit limit. -/
theorem withinLimit_memberMeanings : ∀ members : List (Padded (Member Spelling)),
    ∀ m ∈ memberMeanings members, m.2.WithinLimit
  | [] => by simp [memberMeanings]
  | ⟨_, ⟨_, _, _, s⟩, _⟩ :: rest => by
    rw [memberMeanings, List.forall_mem_cons]
    exact ⟨withinLimit_meaning s, withinLimit_memberMeanings rest⟩

end

/-- The values in the mapping of an object have written forms. -/
theorem isWritten_entries (members : List (Padded (Member Spelling))) :
    ∀ entry ∈ entries members, entry.2.IsWritten :=
  mem_toEntries (fun _ h => absurd h (by simp)) fun m hm =>
    (withinLimit_memberMeanings members m hm).printable.isWritten

end Spelling

end TimeWindow.Json
