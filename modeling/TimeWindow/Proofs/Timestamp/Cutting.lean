import Mathlib.Data.List.TakeWhile
import TimeWindow.Proofs.Numeral.Digits
import TimeWindow.Proofs.Text.Strip
import TimeWindow.Timestamp.Shape

set_option autoImplicit false

/-!
# Cutting timestamps

Each step that cuts a part from the front of a timestamp is described by what the text must be for
it to succeed; together they say which texts have the shape of a timestamp, and with which parts.

## Main definitions

* `TimeWindow.Timestamp.SpellsFraction`, `TimeWindow.Timestamp.SpellsOffset` — the texts of
  fractions and of offsets.
* `TimeWindow.Timestamp.Shape.dateTimePart` — the date and the time of a shape as they are written.

## Main results

* `TimeWindow.Timestamp.takeDigits?_eq_some_iff`, `TimeWindow.Timestamp.takeFraction?_of_spells`,
  `TimeWindow.Timestamp.readOffset?_eq_some_iff` — the steps.
* `TimeWindow.Timestamp.Shape.read?_eq_some_iff` — the texts with a given shape and an offset.
-/

namespace TimeWindow.Timestamp

/-! ## Digits and marks -/

/-- ASCII digits are decimal digits. -/
theorem decimalValue?_of_isDigit {c : CodePoint} (h : c.isDigit = true) :
    c.decimalValue? = some (c.val - 0x30) := by
  have hr := CodePoint.isDigit_eq_true_iff.1 h
  rw [CodePoint.eq_ofDigit h (d := c.val - 0x30) (by omega), CodePoint.decimalValue?_ofDigit,
    CodePoint.val_ofDigit]
  congr 1
  omega

theorem isDecimal_of_isDigit {c : CodePoint} (h : c.isDigit = true) : isDecimal c = true := by
  rw [isDecimal, decimalValue?_of_isDigit h]
  rfl

/-- A code point below the zeros of all other scripts is a decimal digit only in ASCII. -/
theorem isDigit_of_isDecimal {c : CodePoint} (h : isDecimal c = true) (hc : c.isAscii = true) :
    c.isDigit = true := by
  obtain ⟨d, hd⟩ := Option.isSome_iff_exists.1 h
  obtain ⟨z, hz, -⟩ := Option.map_eq_some_iff.1 hd
  have hrange := CodePoint.inRange_eq_true_iff.1
    (List.find?_some (p := fun z => c.inRange z (z + 9)) hz)
  have hsmall : ∀ z ∈ CodePoint.decimalZeros, z = 0x30 ∨ 0x80 ≤ z := by decide
  have hlt : c.val < 0x80 := by simpa [CodePoint.isAscii] using hc
  rw [CodePoint.isDigit_eq_true_iff]
  rcases hsmall z (List.mem_of_find?_eq_some hz) with rfl | hz
  · exact hrange
  · omega

/-- The number of ASCII digits, read as digits of any script. -/
theorem digitsValue_of_isDigit {t : Text} (h : ∀ c ∈ t, c.isDigit = true) :
    digitsValue t = Numeral.ofDigits t := by
  have hmap : (t.map fun c => c.decimalValue?.getD 0) = t.map fun c => c.val - 0x30 :=
    List.map_congr_left fun c hc => by rw [decimalValue?_of_isDigit (h c hc)]; rfl
  rw [digitsValue, hmap]
  rfl

/-- **A run of digits** is cut from the front of exactly the texts that begin with it. -/
theorem takeDigits?_eq_some_iff {n : Nat} {t digits rest : Text} :
    takeDigits? n t = some (digits, rest) ↔
      t = digits ++ rest ∧ digits.length = n ∧ ∀ c ∈ digits, isDecimal c = true := by
  induction n generalizing t digits rest with
  | zero =>
    simp only [takeDigits?, Option.some.injEq, Prod.mk.injEq, List.length_eq_zero_iff]
    constructor
    · rintro ⟨rfl, rfl⟩
      simp
    · rintro ⟨rfl, rfl, -⟩
      simp
  | succ n ih =>
    cases t with
    | nil =>
      simp only [takeDigits?, reduceCtorEq, false_iff, not_and]
      rintro h hlen
      rw [List.nil_eq_append_iff.1 h |>.1] at hlen
      cases hlen
    | cons c t =>
      rw [takeDigits?]
      constructor
      · intro h
        split at h
        · next hc =>
          obtain ⟨⟨ds, r⟩, hr, heq⟩ := Option.map_eq_some_iff.1 h
          obtain ⟨rfl, hlen, hall⟩ := ih.1 hr
          simp only [Prod.mk.injEq] at heq
          obtain ⟨rfl, rfl⟩ := heq
          exact ⟨rfl, by simp [hlen], by simpa [hc] using hall⟩
        · cases h
      · rintro ⟨h, hlen, hall⟩
        cases digits with
        | nil => cases hlen
        | cons d ds =>
          rw [List.cons_append, List.cons.injEq] at h
          obtain ⟨rfl, rfl⟩ := h
          rw [if_pos (hall c (by simp)), ih.2 ⟨rfl, by simpa using hlen, fun e he =>
            hall e (by simp [he])⟩]
          rfl

/-- A mark is cut from the front of exactly the texts that begin with it. -/
theorem skip?_eq_some_iff {mark : CodePoint} {t rest : Text} :
    skip? mark t = some rest ↔ t = mark :: rest := by
  cases t with
  | nil => simp [skip?]
  | cons c t =>
    rw [skip?, List.cons.injEq]
    split
    · next h => simp [h]
    · next h => simp [h]

/-! ## Fractions -/

/-- A text **spells a fraction**: nothing, or a point or a comma with one to nine digits of any
script. -/
def SpellsFraction (t digits : Text) : Prop :=
  (t = [] ∧ digits = []) ∨
    ∃ mark, (mark = CodePoint.ofChar '.' ∨ mark = CodePoint.ofChar ',') ∧ t = mark :: digits ∧
      (1 ≤ digits.length ∧ digits.length ≤ 9) ∧ ∀ c ∈ digits, isDecimal c = true

/-- The text cannot continue a fraction. -/
def NoFraction (t : Text) : Prop :=
  ∀ c ∈ t.head?, c ≠ CodePoint.ofChar '.' ∧ c ≠ CodePoint.ofChar ',' ∧ isDecimal c = false

/-- What is cut off as a fraction spells one. -/
theorem spells_of_takeFraction? {t digits rest : Text}
    (h : takeFraction? t = some (digits, rest)) :
    ∃ f, SpellsFraction f digits ∧ t = f ++ rest := by
  cases t with
  | nil =>
    cases h
    exact ⟨[], .inl ⟨rfl, rfl⟩, rfl⟩
  | cons c t =>
    rw [takeFraction?] at h
    split at h
    · next hmark =>
      dsimp only at h
      split at h
      · next hlen =>
        cases h
        refine ⟨c :: t.takeWhile isDecimal, .inr ⟨c, hmark, rfl, hlen, fun d hd => ?_⟩, ?_⟩
        · exact List.mem_takeWhile_imp hd
        · rw [List.cons_append, List.takeWhile_append_dropWhile]
      · cases h
    · cases h
      exact ⟨[], .inl ⟨rfl, rfl⟩, rfl⟩

/-- **A fraction is cut off whole**, if what follows cannot continue it. -/
theorem takeFraction?_of_spells {f digits rest : Text} (h : SpellsFraction f digits)
    (hrest : NoFraction rest) : takeFraction? (f ++ rest) = some (digits, rest) := by
  rcases h with ⟨rfl, rfl⟩ | ⟨mark, hmark, rfl, hlen, hall⟩
  · cases rest with
    | nil => rfl
    | cons c rest =>
      obtain ⟨hpoint, hcomma, -⟩ := hrest c rfl
      rw [List.nil_append, takeFraction?, if_neg (by simp [hpoint, hcomma])]
  · have hstop : ∀ c ∈ rest.head?, isDecimal c = false := fun c hc => (hrest c hc).2.2
    rw [List.cons_append, takeFraction?, if_pos hmark]
    simp only [Text.takeWhile_append hall hstop, Text.dropWhile_append hall hstop]
    rw [if_pos hlen]

/-! ## Offsets -/

/-- The sign of an offset. -/
def signMark (west : Bool) : CodePoint :=
  if west then '-' else '+'

/-- A text **spells an offset**: a letter for universal time, or a sign with two digits for the
hours, and two for the minutes with or without a colon before them. -/
inductive SpellsOffset : Text → OffsetShape → Prop where
  | zulu {letter : CodePoint} (h : letter = CodePoint.ofChar 'Z' ∨ letter = CodePoint.ofChar 'z') :
    SpellsOffset [letter] .zulu
  | hours (west : Bool) {hours : Text} (hlen : hours.length = 2)
    (hall : ∀ c ∈ hours, isDecimal c = true) :
    SpellsOffset (signMark west :: hours) (.numeric west hours [])
  | minutes (west : Bool) {hours colon minutes : Text} (hlen : hours.length = 2)
    (hall : ∀ c ∈ hours, isDecimal c = true) (hcolon : colon = [] ∨ colon = [CodePoint.ofChar ':'])
    (mlen : minutes.length = 2) (mall : ∀ c ∈ minutes, isDecimal c = true) :
    SpellsOffset (signMark west :: (hours ++ (colon ++ minutes))) (.numeric west hours minutes)

/-- No offset continues a fraction. -/
theorem SpellsOffset.noFraction {t : Text} {o : OffsetShape} (h : SpellsOffset t o) :
    NoFraction t := by
  have hsign : ∀ west, signMark west ≠ CodePoint.ofChar '.' ∧
      signMark west ≠ CodePoint.ofChar ',' ∧ isDecimal (signMark west) = false := by decide
  cases h with
  | zulu h =>
    intro c hc
    obtain rfl : _ = c := by simpa using hc
    rcases h with rfl | rfl <;> decide
  | hours west =>
    intro c hc
    obtain rfl : _ = c := by simpa using hc
    exact hsign west
  | minutes west =>
    intro c hc
    obtain rfl : _ = c := by simpa using hc
    exact hsign west

/-- A colon is no digit. -/
theorem not_isDecimal_colon : isDecimal (CodePoint.ofChar ':') = false := by decide

/-- **The minutes of an offset** are read off a text that consists of them. -/
theorem readMinutes?_eq_some_iff {t minutes : Text} :
    readMinutes? t = some minutes ↔
      (t = [] ∧ minutes = []) ∨
        ∃ colon, (colon = [] ∨ colon = [CodePoint.ofChar ':']) ∧ t = colon ++ minutes ∧
          minutes.length = 2 ∧ ∀ c ∈ minutes, isDecimal c = true := by
  cases t with
  | nil =>
    simp only [readMinutes?, Option.some.injEq, true_and]
    constructor
    · rintro rfl
      exact .inl rfl
    · rintro (rfl | ⟨colon, -, h, hlen, -⟩)
      · rfl
      · obtain ⟨-, rfl⟩ := List.nil_eq_append_iff.1 h
        cases hlen
  | cons c t =>
    rw [readMinutes?]
    constructor
    · intro h
      split at h
      · next m heq =>
        cases h
        obtain ⟨ht, hlen, hall⟩ := takeDigits?_eq_some_iff.1 heq
        rw [List.append_nil] at ht
        right
        split at ht
        · next hc => exact ⟨[c], .inr (by rw [hc]), by rw [ht]; rfl, hlen, hall⟩
        · exact ⟨[], .inl rfl, ht, hlen, hall⟩
      · cases h
    · rintro (⟨h, -⟩ | ⟨colon, hcolon, h, hlen, hall⟩)
      · cases h
      · have htake : takeDigits? 2 minutes = some (minutes, []) :=
          takeDigits?_eq_some_iff.2 ⟨(List.append_nil _).symm, hlen, hall⟩
        rcases hcolon with rfl | rfl
        · have hc : c ≠ CodePoint.ofChar ':' := by
            rintro rfl
            rw [List.nil_append] at h
            have := hall (CodePoint.ofChar ':') (by rw [← h]; simp)
            rw [not_isDecimal_colon] at this
            cases this
          rw [if_neg hc, h, List.nil_append, htake]
        · rw [List.singleton_append, List.cons.injEq] at h
          obtain ⟨rfl, rfl⟩ := h
          rw [if_pos rfl, htake]

/-- **An offset** is read off exactly the texts that spell it. -/
theorem readOffset?_eq_some_iff {t : Text} {o : OffsetShape} :
    readOffset? t = some (some o) ↔ SpellsOffset t o := by
  constructor
  · intro h
    cases t with
    | nil => cases h
    | cons c t =>
      rw [readOffset?] at h
      split at h
      · next hletter =>
        split at h
        · next ht =>
          cases h
          rw [ht]
          exact .zulu hletter
        · cases h
      · split at h
        · next hsign =>
          simp only [Option.bind_eq_bind, Option.pure_def, Option.bind_eq_some_iff,
            Option.some.injEq] at h
          obtain ⟨⟨hours, r⟩, htake, minutes, hmin, rfl⟩ := h
          obtain ⟨rfl, hlen, hall⟩ := takeDigits?_eq_some_iff.1 htake
          have hmark : c = signMark (decide (c = CodePoint.ofChar '-')) := by
            rcases hsign with rfl | rfl <;> rfl
          rcases readMinutes?_eq_some_iff.1 hmin with ⟨rfl, rfl⟩ | ⟨colon, hcolon, rfl, mlen, mall⟩
          · rw [List.append_nil]
            conv => lhs; rw [hmark]
            exact .hours _ hlen hall
          · conv => lhs; rw [hmark]
            exact .minutes _ hlen hall hcolon mlen mall
        · cases h
  · intro h
    have hletter : ∀ west, ¬(signMark west = CodePoint.ofChar 'Z' ∨
        signMark west = CodePoint.ofChar 'z') := by decide
    have hsign : ∀ west, signMark west = CodePoint.ofChar '+' ∨
        signMark west = CodePoint.ofChar '-' := by decide
    have hwest : ∀ west, decide (signMark west = CodePoint.ofChar '-') = west := by decide
    cases h with
    | zulu h => rw [readOffset?, if_pos h, if_pos rfl]
    | hours west hlen hall =>
      rw [readOffset?, if_neg (hletter west), if_pos (hsign west),
        takeDigits?_eq_some_iff.2 ⟨(List.append_nil _).symm, hlen, hall⟩]
      simp [readMinutes?, hwest]
    | minutes west hlen hall hcolon mlen mall =>
      rw [readOffset?, if_neg (hletter west), if_pos (hsign west),
        takeDigits?_eq_some_iff.2 ⟨rfl, hlen, hall⟩]
      simp [readMinutes?_eq_some_iff.2 (.inr ⟨_, hcolon, rfl, mlen, mall⟩), hwest]

/-! ## Timestamps -/

/-- The **date and the time** of a shape as they are written. -/
def Shape.dateTimePart (s : Shape) : Text :=
  s.year ++ CodePoint.ofChar '-' :: (s.month ++ CodePoint.ofChar '-' :: (s.day ++
    CodePoint.ofChar 'T' :: (s.hour ++ CodePoint.ofChar ':' :: (s.minute ++
      CodePoint.ofChar ':' :: s.second))))

/-- The fields of a shape are **runs of digits** of the right lengths. -/
structure Shape.Digital (s : Shape) : Prop where
  year : s.year.length = 4 ∧ ∀ c ∈ s.year, isDecimal c = true
  month : s.month.length = 2 ∧ ∀ c ∈ s.month, isDecimal c = true
  day : s.day.length = 2 ∧ ∀ c ∈ s.day, isDecimal c = true
  hour : s.hour.length = 2 ∧ ∀ c ∈ s.hour, isDecimal c = true
  minute : s.minute.length = 2 ∧ ∀ c ∈ s.minute, isDecimal c = true
  second : s.second.length = 2 ∧ ∀ c ∈ s.second, isDecimal c = true

/-- **A text has the shape of a timestamp** with an offset exactly if it is a date and a time, a
fraction and an offset, one after the other. -/
theorem Shape.read?_eq_some_iff {t : Text} {s : Shape} {o : OffsetShape} (ho : s.offset = some o) :
    Shape.read? t = some s ↔
      s.Digital ∧ ∃ f z, SpellsFraction f s.fraction ∧ SpellsOffset z o ∧
        t = s.dateTimePart ++ (f ++ z) := by
  simp only [Shape.read?, Option.bind_eq_bind, Option.pure_def, Option.bind_eq_some_iff,
    Option.some.injEq, Prod.exists, takeDigits?_eq_some_iff, skip?_eq_some_iff]
  constructor
  · rintro ⟨year, _, ⟨rfl, hy⟩, _, rfl, month, _, ⟨rfl, hmo⟩, _, rfl, day, _, ⟨rfl, hd⟩, _, rfl,
      hour, _, ⟨rfl, hh⟩, _, rfl, minute, _, ⟨rfl, hmi⟩, _, rfl, second, _, ⟨rfl, hs⟩, fraction, z,
      hf, offset, hz, rfl⟩
    obtain rfl : offset = some o := ho
    obtain ⟨f, hspells, rfl⟩ := spells_of_takeFraction? hf
    refine ⟨⟨hy, hmo, hd, hh, hmi, hs⟩, f, z, hspells, readOffset?_eq_some_iff.1 hz, ?_⟩
    simp [dateTimePart]
  · rintro ⟨⟨hy, hmo, hd, hh, hmi, hs⟩, f, z, hf, hz, rfl⟩
    have htake := takeFraction?_of_spells hf hz.noFraction
    refine ⟨s.year, _, ⟨?_, hy⟩, _, rfl, s.month, _, ⟨rfl, hmo⟩, _, rfl, s.day, _, ⟨rfl, hd⟩, _, rfl,
      s.hour, _, ⟨rfl, hh⟩, _, rfl, s.minute, _, ⟨rfl, hmi⟩, _, rfl, s.second, _, ⟨rfl, hs⟩,
      s.fraction, z, htake, some o, readOffset?_eq_some_iff.2 hz, ?_⟩
    · simp [dateTimePart]
    · rw [← ho]

end TimeWindow.Timestamp
