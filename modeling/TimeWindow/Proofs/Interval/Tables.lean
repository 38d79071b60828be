import TimeWindow.Proofs.Interval.Columns

set_option autoImplicit false

/-!
# Reading tables

A table is read by walking both columns together. What stands next to each other is checked as it is
when an interval is written, and so a table that has been written is read back. On integers, which
is all that a column can hold, this check takes the same pairs as the check of payloads does, and
makes the same intervals of them.

## Main definitions

* `TimeWindow.Row.interval` — the interval of a row.
* `TimeWindow.Interval.ofPair` — the interval of a start and a duration next to each other.

## Main results

* `TimeWindow.Interval.ofColumns_eq` — reading a table is reading each of its pairs.
* `TimeWindow.Interval.ofPair_eq_ok_iff` — pairs of integers are read as payloads are.
* `TimeWindow.Interval.ofColumns_inverse` — written tables are read back, and tables are read row by
  row as payloads are.
-/

namespace TimeWindow

open Outcome

/-! ## Rows as intervals -/

/-- The **interval of a row**. -/
def Row.interval (r : Row) : Interval :=
  .ofKind .plain (.int r.start) (.int r.duration)

/-- The interval of a row that fits in 64 bits is written as the row. -/
theorem Row.Fits.toRow_interval {r : Row} (h : r.Fits) : r.interval.toRow = .ok r :=
  (Interval.toRow_of_int rfl rfl).2 h

/-! ## Integers in fields -/

/-- A value that is an integer, truth values counted, is a truth value or an integer proper. -/
theorem Value.bool_or_int {v : Value} {n : Int} (h : v.number? = some n) :
    (∃ b, v = .bool b) ∨ v = .int n := by
  cases v with
  | bool b => exact .inl ⟨b, rfl⟩
  | int m => exact .inr (congrArg Value.int (Option.some.inj h))
  | _ => cases h

/-- **An integer is written for a field** if it is no truth value and fits in 64 bits. -/
theorem Field.checked_number_eq_ok_iff {field : Field} {v : Value} {m n : Int}
    (h : v.number? = some m) : field.checked v = .ok n ↔ v = .int n ∧ fitsInt64 n = true := by
  rcases Value.bool_or_int h with ⟨b, rfl⟩ | rfl
  · simp [checked_eq_ok_iff]
  · rw [checked_int_eq_ok_iff, Value.int.injEq]

namespace Interval

/-! ## Pairs -/

/-- The **interval of a pair**: a start and a duration that stand next to each other. -/
def ofPair (p : Value × Value) : Except Failure Interval :=
  (Interval.mk p.1 p.2 none).toRow.map Row.interval

/-- **Pairs of integers are read as payloads are**, and as the same intervals. -/
theorem ofPair_eq_ok_iff {v w : Value} {m n : Int} (hv : v.number? = some m)
    (hw : w.number? = some n) {i : Interval} :
    ofPair (v, w) = .ok i ↔
      ofPayload .plain (.dict [(.text "a", v), (.text "b", w)]) = .ok i := by
  have hvalues : Field.start.value? (.dict [(.text "a", v), (.text "b", w)]) = some v ∧
      Field.duration.value? (.dict [(.text "a", v), (.text "b", w)]) = some w :=
    Field.value?_dict v w
  rw [ofPair, map_eq_ok_iff, ofPayload_eq_ok_iff, hvalues.1, hvalues.2]
  simp only [toRow_eq_ok_iff, Field.checked_number_eq_ok_iff hv, Field.checked_number_eq_ok_iff hw,
    Option.some.injEq]
  constructor
  · rintro ⟨r, ⟨ha, hb⟩, rfl⟩
    exact ⟨r.start, r.duration, ha, hb, rfl⟩
  · rintro ⟨x, y, ha, hb, rfl⟩
    exact ⟨⟨x, y⟩, ⟨ha, hb⟩, rfl⟩

/-- Fields next to each other are read pair by pair. -/
theorem ofFields_eq_mapM (pairs : List (Value × Value)) : ofFields pairs = pairs.mapM ofPair := by
  induction pairs with
  | nil => rfl
  | cons p rest ih =>
    obtain ⟨v, w⟩ := p
    rw [ofFields, List.mapM_cons, ih, ofPair, toRow]
    cases Field.start.checked v with
    | error f => rfl
    | ok a =>
      cases Field.duration.checked w with
      | error f => rfl
      | ok b => rfl

/-- **Reading a table** is reading each of its pairs, if the columns are of one length. -/
theorem ofColumns_eq {starts durations : Value} {ss ds : List Value}
    (hs : starts.elements? = some ss) (hd : durations.elements? = some ds) :
    ofColumns starts durations =
      if ss.length = ds.length then (ss.zip ds).mapM ofPair
      else .error (.columnLengths ss.length ds.length) := by
  rw [ofColumns, columnElements, hs, columnElements, hd, ← ofFields_eq_mapM]
  by_cases h : ss.length = ds.length
  · rw [if_pos h]
    exact if_neg (not_not_intro h)
  · rw [if_neg h]
    exact if_pos h

/-! ## Tables that have been written -/

/-- What is written for intervals fits in 64 bits. -/
theorem fits_of_mapM_toRow {intervals : List Interval} {rows : List Row}
    (h : intervals.mapM toRow = .ok rows) : ∀ r ∈ rows, r.Fits := by
  intro r hr
  have hmem : Except.ok r ∈ intervals.map toRow := by
    rw [mapM_eq_ok_iff.1 h]
    exact List.mem_map_of_mem hr
  obtain ⟨i, -, hi⟩ := List.mem_map.1 hmem
  exact fits_of_toRow hi

/-- **The columns of rows are read** as the intervals of the rows, if these fit in 64 bits. -/
theorem ofColumns_ofRows {rows : List Row} (h : ∀ r ∈ rows, r.Fits) :
    ofColumns (.column (Columns.ofRows rows).starts) (.column (Columns.ofRows rows).durations) =
      .ok (rows.map Row.interval) := by
  have hpairs : ((rows.map Row.start).map Value.int).zip ((rows.map Row.duration).map Value.int) =
      rows.map fun r => (.int r.start, .int r.duration) := by
    rw [List.map_map, List.map_map, List.zip_map']
    rfl
  rw [ofColumns_eq rfl rfl, if_pos (by simp [Columns.ofRows]), Columns.ofRows, hpairs,
    mapM_eq_ok_iff, List.map_map, List.map_map]
  refine List.map_congr_left fun r hr => ?_
  exact map_eq_ok_iff.2 ⟨r, (toRow_of_int rfl rfl).2 (h r hr), rfl⟩

/-- **The intervals of rows are written** as the columns of the rows, if these fit in 64 bits. -/
theorem ofIntervals_interval {rows : List Row} (h : ∀ r ∈ rows, r.Fits) :
    Columns.ofIntervals (rows.map Row.interval) = .ok (Columns.ofRows rows) := by
  have hrows : (rows.map Row.interval).mapM toRow = .ok rows := by
    rw [mapM_eq_ok_iff, List.map_map]
    exact List.map_congr_left fun r hr => (h r hr).toRow_interval
  rw [Columns.ofIntervals_eq_map, hrows]
  rfl

/-! ## Tables of integers -/

section Integers

variable {starts durations : Value} {ss ds : List Value}

/-- **A table of integers is read row by row** as payloads are. -/
theorem ofColumns_eq_ok_iff (hs : starts.elements? = some ss) (hd : durations.elements? = some ds)
    (hlength : ss.length = ds.length) (hint : ∀ v ∈ ss ++ ds, ∃ n, v.number? = some n)
    {read : List Interval} :
    ofColumns starts durations = .ok read ↔
      (ss.zip ds).mapM (fun p => ofPayload .plain (.dict [(.text "a", p.1), (.text "b", p.2)])) =
        .ok read := by
  rw [ofColumns_eq hs hd, if_pos hlength]
  refine mapM_eq_ok_congr fun p hp i => ?_
  obtain ⟨hv, hw⟩ := List.of_mem_zip hp
  obtain ⟨m, hm⟩ := hint p.1 (List.mem_append_left _ hv)
  obtain ⟨n, hn⟩ := hint p.2 (List.mem_append_right _ hw)
  exact ofPair_eq_ok_iff hm hn

end Integers

/-- **Written tables are read back, and tables are read row by row.** The columns of intervals are
read as the plain intervals of the integers that are written for them, one for each and in the same
order, and these are written as the same columns. Two sequences of different lengths are no table,
which is a bad value and not an integer out of range. Two sequences of integers of one length are
read exactly if the two integers of each row are an interval as a payload, and then the intervals
are those of these payloads. -/
theorem ofColumns_inverse :
    (∀ (intervals : List Interval) (c : Columns), Columns.ofIntervals intervals = .ok c →
      ∃ read, ofColumns (.column c.starts) (.column c.durations) = .ok read ∧
        read.length = intervals.length ∧
        (∀ (k : Nat) (i : Interval), intervals[k]? = some i →
          ∃ r : Row, i.toRow = .ok r ∧
            read[k]? = some (ofKind .plain (.int r.start) (.int r.duration))) ∧
        Columns.ofIntervals read = .ok c) ∧
    ∀ (starts durations : Value) (ss ds : List Value),
      starts.elements? = some ss → durations.elements? = some ds →
      (ss.length ≠ ds.length →
        ∃ f, ofColumns starts durations = .error f ∧ f.category = .badValue) ∧
      (ss.length = ds.length → (∀ v ∈ ss ++ ds, ∃ n, v.number? = some n) →
        ((∃ read, ofColumns starts durations = .ok read) ↔
          ∀ (k : Nat) (v w : Value), ss[k]? = some v → ds[k]? = some w →
            ∃ i, ofPayload .plain (.dict [(.text "a", v), (.text "b", w)]) = .ok i) ∧
        ∀ read, ofColumns starts durations = .ok read → read.length = ss.length ∧
          ∀ (k : Nat) (v w : Value), ss[k]? = some v → ds[k]? = some w →
            ∃ i, read[k]? = some i ∧
              ofPayload .plain (.dict [(.text "a", v), (.text "b", w)]) = .ok i) := by
  refine ⟨fun intervals c hc => ?_, fun starts durations ss ds hs hd => ⟨fun hlength => ?_,
    fun hlength hint => ⟨?_, fun read hread => ⟨?_, fun k v w hv hw => ?_⟩⟩⟩⟩
  · rw [Columns.ofIntervals_eq_map] at hc
    obtain ⟨rows, hrows, rfl⟩ := map_eq_ok_iff.1 hc
    have hfits := fits_of_mapM_toRow hrows
    refine ⟨rows.map Row.interval, ofColumns_ofRows hfits, ?_, fun k i hi => ?_,
      ofIntervals_interval hfits⟩
    · rw [List.length_map, length_of_mapM hrows]
    · obtain ⟨r, hr, hrow⟩ := exists_getElem?_of_mapM hrows hi
      exact ⟨r, hrow, by rw [List.getElem?_map, hr]; rfl⟩
  · exact ⟨_, by rw [ofColumns_eq hs hd, if_neg hlength], rfl⟩
  · simp only [ofColumns_eq_ok_iff hs hd hlength hint, exists_mapM_iff, List.mem_iff_getElem?,
      List.getElem?_zip_eq_some, Prod.forall, forall_exists_index, and_imp]
    exact ⟨fun h k v w => h v w k, fun h v w k => h k v w⟩
  · rw [ofColumns_eq_ok_iff hs hd hlength hint] at hread
    rw [length_of_mapM hread, List.length_zip, hlength, Nat.min_self]
  · rw [ofColumns_eq_ok_iff hs hd hlength hint] at hread
    have hpair : (ss.zip ds)[k]? = some (v, w) := List.getElem?_zip_eq_some.2 ⟨hv, hw⟩
    exact exists_getElem?_of_mapM hread hpair

/-- The table of an interval whose start stands for an integer, two sequences of different lengths,
and a start that is too large. -/
theorem ofColumns_inverse_kept :
    (∃ read, ofColumns (.column [1]) (.column [-5]) = .ok read ∧
        read[0]? = some ⟨.int 1, .int (-5), none⟩ ∧ Columns.ofIntervals read = .ok ⟨[1], [-5]⟩) ∧
      (∃ f, ofColumns (.column [1]) (.list []) = .error f ∧ f.category = .badValue) ∧
      ¬∃ read, ofColumns (.tuple [.int (2 ^ 63)]) (.bytes [7]) = .ok read := by
  refine ⟨?_, ?_, fun hread => ?_⟩
  · let i : Interval := ⟨.indexLike ⟨0, []⟩ (.bool true), .int (-5), some .none⟩
    have hwritten : Columns.ofIntervals [i] = .ok ⟨[1], [-5]⟩ := rfl
    obtain ⟨read, hread, -, hplace, hagain⟩ := ofColumns_inverse.1 [i] _ hwritten
    obtain ⟨r, hr, hfirst⟩ := hplace 0 i rfl
    obtain rfl : (⟨1, -5⟩ : Row) = r := Except.ok.inj hr
    exact ⟨read, hread, hfirst, hagain⟩
  · exact (ofColumns_inverse.2 (.column [1]) (.list []) _ _ rfl rfl).1 (by decide)
  · have hint : ∀ v ∈ [Value.int (2 ^ 63)] ++ [Value.int 7], ∃ n, v.number? = some n := by
      simp [Value.number?]
    obtain ⟨hiff, -⟩ := (ofColumns_inverse.2 (.tuple [.int (2 ^ 63)]) (.bytes [7])
      [.int (2 ^ 63)] [.int 7] rfl rfl).2 rfl hint
    obtain ⟨i, hi⟩ := hiff.1 hread 0 _ _ rfl rfl
    obtain ⟨hfits, -⟩ := (ofPayload_toValue_eq_ok_iff (r := ⟨2 ^ 63, 7⟩)).1 hi
    exact absurd hfits.1 (by decide)

end Interval

end TimeWindow
