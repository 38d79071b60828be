import TimeWindow.Proofs.Interval.Bytes
import TimeWindow.Proofs.Interval.Outcome
import TimeWindow.Proofs.Json.Document

set_option autoImplicit false

/-!
# Strings as documents

A string is a text without surrogates. Its bytes in UTF-8 are the ones that spell the text, so that a
document may be given as a string or as the bytes of the string, and nothing that becomes of it
depends on which: neither its intervals nor the failure to decode it, with the positions that it
names.

## Main results

* `TimeWindow.Encoding.utf8Bytes_ofChar`, `TimeWindow.Encoding.utf8Encode_ofString` — the bytes of a
  character and of a string spell them.
* `TimeWindow.Interval.ofDocument_toUTF8` — the bytes of a string are read as the string.
-/

namespace TimeWindow

/-! ## The bytes of a string -/

namespace Encoding

/-- **The bytes of a character** are those of its code point. -/
theorem utf8Bytes_ofChar (c : Char) : utf8Bytes (CodePoint.ofChar c) = String.utf8EncodeChar c := by
  have hlt : c.val.toNat < 0x110000 := (CodePoint.ofChar c).val_lt
  have hval : (CodePoint.ofChar c).val = c.val.toNat := rfl
  unfold utf8Bytes String.utf8EncodeChar continuationByte
  simp only [hval]
  generalize c.val.toNat = n at hlt
  by_cases h₁ : n < 0x80
  · rw [if_pos h₁, if_pos (by omega)]
  by_cases h₂ : n < 0x800
  · rw [if_neg h₁, if_pos h₂, if_neg (by omega), if_pos (by omega),
      show n / 64 % 32 + 192 = 0xC0 + n / 64 by omega, Nat.add_comm (n % 64)]
  by_cases h₃ : n < 0x10000
  · rw [if_neg h₁, if_neg h₂, if_pos h₃, if_neg (by omega), if_neg (by omega), if_pos (by omega),
      show n / 4096 % 16 + 224 = 0xE0 + n / 4096 by omega, Nat.add_comm (n % 64),
      Nat.add_comm (n / 64 % 64)]
  · rw [if_neg h₁, if_neg h₂, if_neg h₃, if_neg (by omega), if_neg (by omega), if_neg (by omega),
      show n / 262144 % 8 + 240 = 0xF0 + n / 262144 by omega, Nat.add_comm (n % 64),
      Nat.add_comm (n / 64 % 64), Nat.add_comm (n / 4096 % 64)]

/-- **The bytes of a string** in UTF-8 are those that spell its text. -/
theorem utf8Encode_ofString (s : String) : utf8Encode s = s.toUTF8.data.toList := by
  have hbytes : s.toUTF8.data.toList = s.toList.flatMap String.utf8EncodeChar := by
    rw [String.toUTF8_eq_toByteArray, ← String.utf8Encode_toList, List.utf8Encode]
    simp
  rw [hbytes, utf8Encode, Text.ofString, List.flatMap_map]
  exact congrArg (s.toList.flatMap ·) (funext utf8Bytes_ofChar)

end Encoding

/-! ## Documents in bytes -/

namespace Interval

open Outcome

/-- The bytes of a string are a document that holds its text. -/
theorem holds_of_toUTF8 {s : String} {document : Value}
    (h : document = .bytes s.toUTF8.data.toList ∨ document = .buffer s.toUTF8.data.toList) :
    document.Holds s := by
  rcases h with rfl | rfl
  · rw [← Encoding.utf8Encode_ofString]
    exact .bytes
  · rw [← Encoding.utf8Encode_ofString]
    exact .buffer

/-- **The bytes of a string are read as the string**, if it begins with no byte order mark and has no
NUL among its first two characters. What is read from either is the same interval of any kind, and
the same list of intervals; or both fail to decode, with one and the same failure. -/
theorem ofDocument_toUTF8 {s : String} (hs : Encoding.BeginsUnmarked s) {document : Value}
    (h : document = .bytes s.toUTF8.data.toList ∨ document = .buffer s.toUTF8.data.toList) :
    (∀ kind, (∃ i, ofDocument kind (.text s) = .ok i ∧ ofDocument kind document = .ok i) ∨
        ∃ f, f.category = .undecodable ∧ ofDocument kind (.text s) = .error f ∧
          ofDocument kind document = .error f) ∧
      ((∃ intervals, listOfDocument (.text s) = .ok intervals ∧
          listOfDocument document = .ok intervals) ∨
        ∃ f, f.category = .undecodable ∧ listOfDocument (.text s) = .error f ∧
          listOfDocument document = .error f) := by
  have hread : document.readDocument = (Value.text s).readDocument :=
    (holds_of_toUTF8 h).readDocument hs
  refine ⟨fun kind => ?_, ?_⟩
  · have heq : ofDocument kind document = ofDocument kind (.text s) := by
      rw [ofDocument, hread, ofDocument]
    rw [heq]
    rcases (failsOnly_ofDocument (.text s) kind).ok_or_error with ⟨i, hi⟩ | ⟨f, hf, hcategory⟩
    · exact .inl ⟨i, hi, hi⟩
    · exact .inr ⟨f, hcategory, hf, hf⟩
  · have heq : listOfDocument document = listOfDocument (.text s) := by
      rw [listOfDocument, hread, listOfDocument]
    rw [heq]
    rcases (failsOnly_listOfDocument (.text s)).ok_or_error with ⟨is, his⟩ | ⟨f, hf, hcategory⟩
    · exact .inl ⟨is, his, his⟩
    · exact .inr ⟨f, hcategory, hf, hf⟩

/-- A string with a fault behind two characters of two and of four bytes. The position that the
failure names is counted in characters, whether the string is read or its bytes. -/
theorem ofDocument_toUTF8_position :
    let s := "\"é😀\" x"
    let failure : Failure := .document (.grammar .extraData ⟨1, 6, 5⟩)
    listOfDocument (.text s) = .error failure ∧
      listOfDocument (.bytes s.toUTF8.data.toList) = .error failure := by
  intro s failure
  let quoted : Json.Spelling := .quoted
    [.plain 'é' (by unfold Json.IsPlain; decide), .plain '😀' (by unfold Json.IsPlain; decide)]
  have hrest : Json.Follows " x" := by
    unfold Json.Follows
    decide
  have hread : Json.ofText (quoted.text ++ Text.ofString " x") =
      .error (.grammar .extraData ⟨1, 6, 5⟩) :=
    Json.ofText_append_extra (Nat.zero_le _) hrest rfl
  have htext : listOfDocument (.text s) = .error failure := by
    rw [show quoted.text ++ Text.ofString " x" = Text.ofString s by decide] at hread
    rw [listOfDocument, Value.readDocument, hread]
    rfl
  have hbegins : Encoding.BeginsUnmarked s := by
    unfold Encoding.BeginsUnmarked
    decide
  rcases (ofDocument_toUTF8 hbegins (.inl rfl)).2 with ⟨is, his, -⟩ | ⟨f, -, hf, hbytes⟩
  · rw [htext] at his
    cases his
  · rw [htext] at hf
    obtain rfl := Except.error.inj hf
    exact ⟨htext, hbytes⟩

end Interval

end TimeWindow
