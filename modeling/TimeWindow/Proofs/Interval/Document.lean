import TimeWindow.Interval.Document
import TimeWindow.Proofs.Interval.Payload
import TimeWindow.Proofs.Json.Document
import TimeWindow.Proofs.Json.Meaning

set_option autoImplicit false

/-!
# Reading interval documents

An object document is an interval exactly if the last member named `a` and the last member named `b`
write integers of 64 bits. The order of the members, earlier members with these names, members with
other names, the blanks and the way in which names are escaped make no difference. Every other
object document fails to decode.

## Main results

* `TimeWindow.Interval.ofDocument_object` — the interval of an object document.
-/

namespace TimeWindow.Interval

open Json (Blank Member Padded Piece Spelling)

/-- The document of a spelling with blanks around it is read as its value. -/
theorem ofDocument_spelling {kind : Kind} {p : Padded Spelling}
    (h : p.content.depth ≤ Json.nestingLimit) :
    ofDocument kind (.text (p.text Spelling.text)) = ofPayload kind p.content.value := by
  rw [ofDocument, Value.readDocument, Json.ofText_spelling h]
  rfl

/-- A member with a name that is an integer of 64 bits is a field. -/
theorem ofPayload_entries_eq_ok_iff {field : Field} {members : List (Padded (Member Spelling))}
    {n : Int} :
    field.ofPayload (Spelling.entries members) = .ok n ↔
      Spelling.lastInteger? field.key members = some n ∧ -2 ^ 63 ≤ n ∧ n ≤ 2 ^ 63 - 1 := by
  rw [Field.ofPayload_eq_ok_iff, Spelling.lookup?_entries_eq_int_iff, fitsInt64_eq_true_iff]
  rfl

/-- **The interval of an object document.** The document is read as an interval exactly if the last
member named `a` writes an integer `x` of 64 bits and the last member named `b` an integer `y`, and
then the interval has these two. Otherwise it fails to decode. -/
theorem ofDocument_object (kind : Kind) (before inside after : List Blank)
    (members : List (Padded (Member Spelling)))
    (hdepth : (Spelling.object inside members).depth ≤ Json.nestingLimit) :
    (∀ i, ofDocument kind
        (.text (Padded.text Spelling.text ⟨before, .object inside members, after⟩)) = .ok i ↔
      ∃ x y,
        (Spelling.lastInteger? "a" members = some x ∧ -2 ^ 63 ≤ x ∧ x ≤ 2 ^ 63 - 1) ∧
        (Spelling.lastInteger? "b" members = some y ∧ -2 ^ 63 ≤ y ∧ y ≤ 2 ^ 63 - 1) ∧
        i = ofKind kind (.int x) (.int y)) ∧
      ∀ f, ofDocument kind
          (.text (Padded.text Spelling.text ⟨before, .object inside members, after⟩)) = .error f →
        f.category = .undecodable := by
  have hvalue : (Spelling.object inside members).value = .dict (Spelling.entries members) := by
    rw [Spelling.value, Spelling.meaning, Json.toValue]
    rfl
  rw [ofDocument_spelling hdepth, hvalue]
  refine ⟨fun i => ?_, fun f hf => ?_⟩
  · simp only [ofPayload_dict_eq_ok_iff, ofPayload_entries_eq_ok_iff]
    rfl
  · exact category_of_ofPayload_dict (Spelling.hasTextKeys_entries members)
      (Spelling.isWritten_entries members) hf

/-- A document with a name twice and a name in escapes. The last members count. -/
theorem ofDocument_object_repeated :
    ofDocument .labeled (.text " \x7b\"b\":null, \"\\u0061\" :-5,\"x\":[\x7b\x7d],\"b\":7\x7d\n") =
      .ok ⟨.int (-5), .int 7, some (.text [])⟩ := by
  let a : List Piece := [.unit ⟨⟨0, false⟩, ⟨0, false⟩, ⟨6, false⟩, ⟨1, false⟩⟩]
  let b : List Piece := [.plain 'b' (by unfold Json.IsPlain; decide)]
  let x : List Piece := [.plain 'x' (by unfold Json.IsPlain; decide)]
  let members : List (Padded (Member Spelling)) :=
    [⟨[], ⟨b, [], [], .word .null⟩, []⟩,
      ⟨[.space], ⟨a, [.space], [], .number ⟨true, [5], [], none, by decide, by decide, by decide⟩⟩, []⟩,
      ⟨[], ⟨x, [], [], .array [] [⟨[], .object [] [], []⟩]⟩, []⟩,
      ⟨[], ⟨b, [], [], .number ⟨false, [7], [], none, by decide, by decide, by decide⟩⟩, []⟩]
  exact ((ofDocument_object .labeled [.space] [] [.lineFeed] members (by decide)).1 _).2
    ⟨-5, 7, ⟨rfl, by decide, by decide⟩, ⟨rfl, by decide, by decide⟩, rfl⟩

end TimeWindow.Interval
