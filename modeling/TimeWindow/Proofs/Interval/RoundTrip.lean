import TimeWindow.Proofs.Interval.Bytes
import TimeWindow.Proofs.Interval.Outcome
import TimeWindow.Proofs.Interval.Row
import TimeWindow.Proofs.Json.Document
import TimeWindow.Proofs.Json.Meaning
import TimeWindow.Proofs.Numeral.Canonical

set_option autoImplicit false

/-!
# Written documents are read back

What is written for a row, and for several rows, is a spelling of the value that the row or the rows
denote. So a document of intervals whose fields are integers of 64 bits is read back as intervals
with these fields, from text and from bytes, in the same order.

## Main definitions

* `TimeWindow.Interval.HasInt64Fields` — both fields of an interval are integers of 64 bits.

## Main results

* `TimeWindow.Row.exists_spelling`, `TimeWindow.Row.exists_listSpelling` — written documents are
  spellings.
* `TimeWindow.Interval.ofDocument_toDocument` — the document of an interval is read back.
* `TimeWindow.Interval.listOfDocument_listToDocument` — so is the document of several intervals,
  which is made of theirs.
-/

namespace TimeWindow

open Outcome

/-! ## Spellings of what is written -/

namespace Json

/-- Digits are the text of a list of digits. -/
theorem exists_digits {t : Text} (h : ∀ c ∈ t, c.isDigit = true) :
    ∃ ds : List (Fin 10), digitsText ds = t := by
  induction t with
  | nil => exact ⟨[], rfl⟩
  | cons c rest ih =>
    obtain ⟨hc, hrest⟩ := List.forall_mem_cons.1 h
    obtain ⟨ds, hds⟩ := ih hrest
    have hrange := CodePoint.isDigit_eq_true_iff.1 hc
    let d : Fin 10 := ⟨c.val - 0x30, by omega⟩
    have hd : c = .ofDigit d := CodePoint.eq_ofDigit hc (Nat.mod_eq_of_lt d.isLt)
    exact ⟨d :: ds, by rw [digitsText, List.map_cons, ← hd, ← digitsText, hds]⟩

/-- **A written integer** is the spelling of a number that says it. -/
theorem exists_numberSpelling {n : Int} (h : Numeral.WithinLimit n) :
    ∃ m : NumberSpelling, m.text = Numeral.int n ∧ m.meaning = .int n := by
  have hcanonical := Numeral.isNat_nat n.natAbs
  obtain ⟨ds, hds⟩ := exists_digits hcanonical.isDigit
  have hne : ds ≠ [] := by
    rintro rfl
    exact hcanonical.ne_nil hds.symm
  have hzero : ds.head? = some 0 → ds = [0] := by
    intro hhead
    cases ds with
    | nil => cases hhead
    | cons d rest =>
      obtain rfl : d = 0 := by simpa using hhead
      have hlen := congrArg List.length (hcanonical.eq_zero (by rw [← hds]; rfl))
      rw [← hds, length_digitsText, List.length_cons, List.length_singleton] at hlen
      rw [List.length_eq_zero_iff.1 (Nat.succ.inj hlen)]
  have hlength : ds.length ≤ Numeral.digitLimit := by
    rw [← length_digitsText, hds]
    exact (Numeral.length_nat_le_iff (by decide)).2 h
  have hvalue : digitsValue ds = n.natAbs := by
    rw [← digitsNumber_digitsText, hds]
    exact hcanonical.denotes
  refine ⟨⟨decide (n < 0), ds, [], none, hne, hzero, fun _ => hlength⟩, ?_, ?_⟩
  · simp only [NumberSpelling.text, NumberSpelling.unsignedText, NumberSpelling.fractionText,
      NumberSpelling.exponentText, hds, Numeral.int, decide_eq_true_eq, if_true, Option.map_none,
      Option.getD_none, List.append_nil]
    split <;> rfl
  · have hwhole : (if n < 0 then -(n.natAbs : Int) else n.natAbs) = n := by
      split <;> omega
    simp only [NumberSpelling.meaning, NumberSpelling.integer?, NumberSpelling.signedWhole, hvalue,
      decide_eq_true_eq, hwhole, and_self, if_true]

end Json

namespace Row

open Json (Member Padded Piece Spelling)

/-- **A written row** is the spelling of its mapping. -/
theorem exists_spelling {r : Row} (h : r.Fits) :
    ∃ s : Spelling, s.text = r.document ∧ s.value = r.toValue ∧ s.depth = 1 := by
  obtain ⟨a, ha, ha'⟩ := Json.exists_numberSpelling (Numeral.withinLimit_of_fitsInt64 h.1)
  obtain ⟨b, hb, hb'⟩ := Json.exists_numberSpelling (Numeral.withinLimit_of_fitsInt64 h.2)
  let start : List Piece := [.plain 'a' (by unfold Json.IsPlain; decide)]
  let duration : List Piece := [.plain 'b' (by unfold Json.IsPlain; decide)]
  let members : List (Padded (Member Spelling)) :=
    [⟨[], ⟨start, [], [], .number a⟩, []⟩, ⟨[], ⟨duration, [], [], .number b⟩, []⟩]
  refine ⟨.object [] members, ?_, ?_, rfl⟩
  · simp only [members, Spelling.text, Spelling.memberTexts, ha, hb]
    simp [start, duration, document, Text.concat, Json.bracketedText, Text.separated,
      Json.quotedText, Piece.text, Text.ofString]
  · simp only [members, Spelling.value, Spelling.meaning, Spelling.memberMeanings, ha', hb',
      Json.toValue, Json.toEntries]
    rfl

/-- **Written rows** are the spelling of the list of their mappings. -/
theorem exists_listSpelling {rows : List Row} (h : ∀ r ∈ rows, r.Fits) :
    ∃ s : Spelling, s.text = listDocument rows ∧ s.value = .list (rows.map toValue) ∧
      s.depth ≤ 2 := by
  have hitems : ∃ items : List (Padded Spelling), Spelling.itemTexts items = rows.map document ∧
      Json.toValues (Spelling.itemMeanings items) = rows.map toValue ∧
      Spelling.itemDepth items ≤ 1 := by
    induction rows with
    | nil => exact ⟨[], rfl, rfl, Nat.zero_le _⟩
    | cons r rest ih =>
      obtain ⟨hr, hrest⟩ := List.forall_mem_cons.1 h
      obtain ⟨s, htext, hvalue, hdepth⟩ := exists_spelling hr
      obtain ⟨items, htexts, hvalues, hdepths⟩ := ih hrest
      refine ⟨⟨[], s, []⟩ :: items, ?_, ?_, ?_⟩
      · rw [Spelling.itemTexts, htext, htexts]
        simp
      · rw [Spelling.itemMeanings, Json.toValues, hvalues, List.map_cons, ← hvalue]
        rfl
      · rw [Spelling.itemDepth, hdepth]
        omega
  obtain ⟨items, htexts, hvalues, hdepths⟩ := hitems
  refine ⟨.array [] items, ?_, ?_, ?_⟩
  · rw [Spelling.text, htexts, listDocument]
    simp [Json.bracketedText, Text.concat, Text.ofString]
  · rw [Spelling.value, Spelling.meaning, Json.toValue, hvalues]
  · rw [Spelling.depth]
    omega

/-! ## Reading what is written -/

/-- Documents that are written begin with a bracket and another sign of ASCII. -/
theorem beginsUnmarked_document (r : Row) : Encoding.BeginsUnmarked r.document := by
  have htext : ∃ rest, r.document = CodePoint.ofChar '\x7b' :: CodePoint.ofChar '"' :: rest :=
    ⟨_, rfl⟩
  obtain ⟨rest, htext⟩ := htext
  rw [htext]
  exact Encoding.beginsUnmarked_cons_cons (by decide) (by decide) (by decide) rest

theorem beginsUnmarked_listDocument (rows : List Row) :
    Encoding.BeginsUnmarked (listDocument rows) := by
  have htext : ∃ c rest, c.val ≠ 0 ∧ listDocument rows = CodePoint.ofChar '[' :: c :: rest := by
    match rows with
    | [] => exact ⟨CodePoint.ofChar ']', [], by decide, rfl⟩
    | [r] => exact ⟨CodePoint.ofChar '\x7b', _, by decide, rfl⟩
    | r :: r' :: rest => exact ⟨CodePoint.ofChar '\x7b', _, by decide, rfl⟩
  obtain ⟨c, rest, hc, htext⟩ := htext
  rw [htext]
  exact Encoding.beginsUnmarked_cons_cons (by decide) (by decide) hc rest

end Row

/-- **A document that holds the text of a spelling** is read as its value. -/
theorem Value.Holds.readDocument_spelling {s : Json.Spelling} {document : Value}
    (h : document.Holds s.text) (hs : Encoding.BeginsUnmarked s.text)
    (hdepth : s.depth ≤ Json.nestingLimit) : document.readDocument = .ok s.value := by
  have hread := Json.ofText_spelling (p := ⟨[], s, []⟩) hdepth
  simp only [Json.Padded.text, List.map_nil, List.nil_append, List.append_nil] at hread
  rw [h.readDocument hs, Value.readDocument, hread]
  rfl

namespace Interval

/-- **The document of a row** is read as the interval of its integers. -/
theorem ofDocument_document {r : Row} (h : r.Fits) {document : Value}
    (hd : document.Holds r.document) (kind : Kind) :
    ofDocument kind document = .ok (ofKind kind (.int r.start) (.int r.duration)) := by
  obtain ⟨s, htext, hvalue, hdepth⟩ := Row.exists_spelling h
  have hlimit : s.depth ≤ Json.nestingLimit := by rw [hdepth]; decide
  rw [← htext] at hd
  have hread := hd.readDocument_spelling (htext ▸ r.beginsUnmarked_document) hlimit
  rw [ofDocument, hread, hvalue]
  exact ofPayload_toValue_eq_ok_iff.2 ⟨h, rfl⟩

/-- The mappings of rows are read as the intervals of their integers, in order. -/
theorem ofPayloads_toValue {rows : List Row} (h : ∀ r ∈ rows, r.Fits) (index : Nat) :
    ofPayloads index (rows.map Row.toValue) =
      .ok (rows.map fun r => ofKind .plain (.int r.start) (.int r.duration)) := by
  induction rows generalizing index with
  | nil => rfl
  | cons r rest ih =>
    obtain ⟨hr, hrest⟩ := List.forall_mem_cons.1 h
    rw [List.map_cons, ofPayloads_cons_of_ok (ofPayload_toValue_eq_ok_iff.2 ⟨hr, rfl⟩),
      ih hrest (index + 1)]
    rfl

/-- **The document of rows** is read as the intervals of their integers, in order. -/
theorem listOfDocument_listDocument {rows : List Row} (h : ∀ r ∈ rows, r.Fits) {document : Value}
    (hd : document.Holds (Row.listDocument rows)) :
    listOfDocument document =
      .ok (rows.map fun r => ofKind .plain (.int r.start) (.int r.duration)) := by
  obtain ⟨s, htext, hvalue, hdepth⟩ := Row.exists_listSpelling h
  have hlimit : s.depth ≤ Json.nestingLimit := Nat.le_trans hdepth (by decide)
  rw [← htext] at hd
  have hread := hd.readDocument_spelling (htext ▸ Row.beginsUnmarked_listDocument rows) hlimit
  rw [listOfDocument, hread, hvalue]
  exact ofPayloads_toValue h 0

/-! ## Documents of intervals -/

/-- An interval **has fields of 64 bits** if both fields are integers that fit. -/
def HasInt64Fields (i : Interval) : Prop :=
  ∃ a b : Int, i.start = .int a ∧ i.duration = .int b ∧
    (-2 ^ 63 ≤ a ∧ a ≤ 2 ^ 63 - 1) ∧ -2 ^ 63 ≤ b ∧ b ≤ 2 ^ 63 - 1

/-- An interval with fields of 64 bits is written as the row of them. -/
theorem HasInt64Fields.exists_row {i : Interval} (h : i.HasInt64Fields) :
    ∃ r : Row, i.toRow = .ok r ∧ r.Fits ∧ i.start = .int r.start ∧ i.duration = .int r.duration := by
  obtain ⟨a, b, ha, hb, hafits, hbfits⟩ := h
  have hfits : (Row.mk a b).Fits :=
    ⟨fitsInt64_eq_true_iff.2 hafits, fitsInt64_eq_true_iff.2 hbfits⟩
  exact ⟨⟨a, b⟩, (toRow_of_int ha hb).2 hfits, hfits, ha, hb⟩

/-- The documents of intervals are those of their rows. -/
theorem mapM_toDocument {intervals : List Interval} {rows : List Row}
    (h : intervals.mapM toRow = .ok rows) :
    intervals.mapM toDocument = .ok (rows.map Row.document) := by
  induction intervals generalizing rows with
  | nil =>
    cases h
    rfl
  | cons i rest ih =>
    rw [List.mapM_cons] at h
    obtain ⟨r, hr, h⟩ := bind_eq_ok_iff.1 h
    obtain ⟨rs, hrs, h⟩ := bind_eq_ok_iff.1 h
    cases h
    rw [List.mapM_cons, toDocument, hr, ih hrs]
    rfl

/-- Intervals with fields of 64 bits are written as the rows of them. -/
theorem exists_rows {intervals : List Interval} (h : ∀ i ∈ intervals, i.HasInt64Fields) :
    ∃ rows : List Row, intervals.mapM toRow = .ok rows ∧ (∀ r ∈ rows, r.Fits) ∧
      rows.map (fun r => ofKind .plain (.int r.start) (.int r.duration)) =
        intervals.map fun i => ofKind .plain i.start i.duration := by
  induction intervals with
  | nil => exact ⟨[], rfl, by simp, rfl⟩
  | cons i rest ih =>
    obtain ⟨hi, hrest⟩ := List.forall_mem_cons.1 h
    obtain ⟨r, hr, hfits, ha, hb⟩ := hi.exists_row
    obtain ⟨rows, hrows, hall, hmap⟩ := ih hrest
    refine ⟨r :: rows, ?_, List.forall_mem_cons.2 ⟨hfits, hall⟩, ?_⟩
    · rw [List.mapM_cons, hr, hrows]
      rfl
    · rw [List.map_cons, List.map_cons, hmap, ha, hb]

/-- **The document of an interval is read back.** An interval with fields of 64 bits has a document,
which is the two canonical numerals of its fields behind their keys. It is read as the interval of
any kind with these fields, whether it is given as text or as bytes. -/
theorem ofDocument_toDocument {i : Interval} (h : i.HasInt64Fields) :
    ∃ (a b : Int) (start duration document : Text), i.start = .int a ∧ i.duration = .int b ∧
      Numeral.IsInt a start ∧ Numeral.IsInt b duration ∧
      document = Text.concat ["\x7b\"a\":", start, ",\"b\":", duration, "\x7d"] ∧
      i.toDocument = .ok document ∧
      ∀ kind (d : Value), d.Holds document →
        ofDocument kind d = .ok (ofKind kind i.start i.duration) := by
  obtain ⟨r, hr, hfits, ha, hb⟩ := h.exists_row
  refine ⟨r.start, r.duration, _, _, r.document, ha, hb, Numeral.isInt_iff.2 rfl,
    Numeral.isInt_iff.2 rfl, rfl, ?_, fun kind d hd => ?_⟩
  · rw [toDocument, hr]
    rfl
  · rw [ha, hb]
    exact ofDocument_document hfits hd kind

/-- **The document of intervals is read back.** The document of intervals with fields of 64 bits is
an array of their documents, with commas between them. It is read as the plain intervals with these
fields, in the same order, whether it is given as text or as bytes. Each of the documents is the two
canonical numerals of the fields behind their keys, and is read as the interval of any kind with
these fields. -/
theorem listOfDocument_listToDocument {intervals : List Interval}
    (h : ∀ i ∈ intervals, i.HasInt64Fields) :
    ∃ (documents : List Text) (document : Text), intervals.mapM toDocument = .ok documents ∧
      document = Text.concat ["[", Text.separated "," documents, "]"] ∧
      listToDocument intervals = .ok document ∧
      (∀ d : Value, d.Holds document →
        listOfDocument d = .ok (intervals.map fun i => ofKind .plain i.start i.duration)) ∧
      ∀ i ∈ intervals, ∃ (a b : Int) (start duration part : Text),
        i.start = .int a ∧ i.duration = .int b ∧
        Numeral.IsInt a start ∧ Numeral.IsInt b duration ∧
        part = Text.concat ["\x7b\"a\":", start, ",\"b\":", duration, "\x7d"] ∧
        i.toDocument = .ok part ∧
        ∀ kind (d : Value), d.Holds part →
          ofDocument kind d = .ok (ofKind kind i.start i.duration) := by
  obtain ⟨rows, hrows, hfits, hmap⟩ := exists_rows h
  refine ⟨rows.map Row.document, Row.listDocument rows, mapM_toDocument hrows, rfl, ?_,
    fun d hd => ?_, fun i hi => ofDocument_toDocument (h i hi)⟩
  · rw [listToDocument, hrows]
    rfl
  · rw [listOfDocument_listDocument hfits hd, hmap]

/-- Two intervals, one of them with a label, which is not written. -/
theorem listOfDocument_listToDocument_two :
    let intervals : List Interval :=
      [⟨.int 1, .int (2 ^ 63 - 1), none⟩, ⟨.int (-3), .int 0, some (.text "x")⟩]
    ∃ document, listToDocument intervals = .ok document ∧
      listOfDocument (.bytes (Encoding.utf8Encode document)) =
        .ok [⟨.int 1, .int (2 ^ 63 - 1), none⟩, ⟨.int (-3), .int 0, none⟩] := by
  intro intervals
  have hfields : ∀ i ∈ intervals, i.HasInt64Fields := by
    intro i hi
    simp only [intervals, List.mem_cons, List.not_mem_nil, or_false] at hi
    rcases hi with rfl | rfl
    · exact ⟨1, 2 ^ 63 - 1, rfl, rfl, by decide, by decide⟩
    · exact ⟨-3, 0, rfl, rfl, by decide, by decide⟩
  obtain ⟨_, document, -, -, hwrite, hread, -⟩ := listOfDocument_listToDocument hfields
  exact ⟨document, hwrite, hread _ .bytes⟩

end Interval

end TimeWindow
