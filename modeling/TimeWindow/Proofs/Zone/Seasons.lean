import Mathlib.Tactic.MkIffOfInductiveProp
import TimeWindow.Proofs.Calendar.Inverse
import TimeWindow.Zone.Basic

set_option autoImplicit false

/-!
# Seasons of saving

The rules of a season pick two instants of each year. If the rules keep away from the turn of the
year and from each other, the season begins and ends once a year, in turn and with weeks between.
So saving is on or off for weeks before and after each change.

## Main definitions

* `TimeWindow.Zone.yearBegin` — the second at which a year begins in universal time.
* `TimeWindow.Zone.Rule.Inner` — a rule that keeps away from the turn of the year.
* `TimeWindow.Zone.Season.Regular` — a season whose rules keep away from each other as well.

## Main results

* `TimeWindow.Zone.Season.Regular.covers_iff` — saving is on from each begin to its end.
* `TimeWindow.Zone.Season.Regular.around_begin`, `TimeWindow.Zone.Season.Regular.around_finish` —
  saving stays as it is for twenty days before and after a change.
* `TimeWindow.Zone.Season.Regular.change_inside_year` — no change is near the turn of a year.
-/

namespace TimeWindow.Zone

open Calendar

/-! ## Functions of instants -/

/-- A function of the instants changes somewhere between two instants at which it differs. -/
theorem exists_change {α : Type} (f : Int → α) {first last : Int} (hle : first ≤ last)
    (hne : f first ≠ f last) :
    ∃ change, first < change ∧ change ≤ last ∧ f (change - 1) ≠ f change := by
  induction last, hle using Int.leInduction with
  | base => exact absurd rfl hne
  | succ last hle ih =>
    by_cases hlast : f last = f (last + 1)
    · obtain ⟨change, hfirst, hchange, h⟩ := ih (hlast ▸ hne)
      exact ⟨change, hfirst, by omega, h⟩
    · exact ⟨last + 1, by omega, le_rfl, by simpa using hlast⟩

/-! ## Years in seconds -/

/-- The **begin of a year** in universal time, in seconds since the epoch. -/
def yearBegin (year : Int) : Int :=
  (daysBeforeYear year - epochDay) * 86400

/-- An instant is not before a year exactly if it lies in that year or in a later one. -/
theorem yearBegin_le_iff {year instant : Int} :
    yearBegin year ≤ instant ↔ year ≤ yearOfDay (instant / 86400) := by
  rw [le_yearOfDay_iff, yearBegin]
  omega

/-- Later years begin later. -/
theorem yearBegin_le {y z : Int} (h : y ≤ z) : yearBegin y ≤ yearBegin z := by
  have := daysBeforeYear_le h
  unfold yearBegin
  omega

/-- A year has at least 365 days. -/
theorem yearBegin_add_le (year : Int) : yearBegin year + 365 * 86400 ≤ yearBegin (year + 1) := by
  have hlength := daysInYear_eq year
  have hnext := daysBeforeYear_succ year
  unfold yearBegin
  split at hlength <;> omega

/-! ## Rules -/

namespace Rule

/-- A rule picks a day of its month. -/
theorem day_mem (r : Rule) (year : Int) :
    dayNumber year r.month 1 ≤ r.day year ∧ r.day year ≤ dayNumber year r.month 1 + 30 := by
  have hmonth := daysInMonth_mem year r.month
  unfold Rule.day
  cases r.sunday with
  | first =>
    simp only [sundayFrom, weekday]
    omega
  | second =>
    simp only [sundayFrom, weekday, dayNumber]
    omega
  | last =>
    simp only [sundayUpTo, weekday, dayNumber]
    omega

/-- A rule is **inner** if it keeps away from the turn of the year: it picks a day of the months
from February to November, and an instant up to a day off. -/
@[mk_iff] structure Inner (r : Rule) : Prop where
  month_mem : 2 ≤ r.month ∧ r.month ≤ 11
  seconds_near : -86400 ≤ r.seconds ∧ r.seconds ≤ 86400

instance (r : Rule) : Decidable r.Inner :=
  decidable_of_iff _ (r.inner_iff).symm

/-- The instant of an inner rule, from the begin of its month. -/
theorem Inner.instant_near {r : Rule} (hr : r.Inner) (year : Int) :
    yearBegin year + daysBeforeMonth (isLeap year) r.month * 86400 - 86400 ≤ r.instant year ∧
      r.instant year ≤ yearBegin year + (daysBeforeMonth (isLeap year) r.month + 31) * 86400 := by
  have hday := r.day_mem year
  have hseconds := hr.seconds_near
  unfold Rule.instant yearBegin
  simp only [dayNumber] at hday
  omega

/-- **An inner rule keeps away from the turn of the year**, by twenty days. -/
theorem Inner.instant_mem {r : Rule} (hr : r.Inner) (year : Int) :
    yearBegin year + 20 * 86400 ≤ r.instant year ∧
      r.instant year + 20 * 86400 ≤ yearBegin (year + 1) := by
  have hinstant := hr.instant_near year
  have hnext := yearBegin_add_le year
  have hmonth := hr.month_mem
  have hfirst := daysBeforeMonth_le year (by decide) hmonth.1 (by omega)
  have hlast := daysBeforeMonth_le year (by omega) hmonth.2 (by decide)
  have hends : daysBeforeMonth (isLeap year) 2 = 31 ∧ daysBeforeMonth (isLeap year) 11 ≤ 305 := by
    cases isLeap year <;> decide
  omega

/-- An inner rule picks later instants in later years. -/
theorem Inner.instant_lt {r : Rule} (hr : r.Inner) {y z : Int} (h : y < z) :
    r.instant y < r.instant z := by
  have hbefore := hr.instant_mem y
  have hafter := hr.instant_mem z
  have := yearBegin_le (show y + 1 ≤ z by omega)
  omega

/-- **Inner rules whose months are not next to each other** keep away from each other, by twenty
days. -/
theorem Inner.instant_apart {r s : Rule} (hr : r.Inner) (hs : s.Inner)
    (hmonths : r.month + 2 ≤ s.month) (year : Int) :
    r.instant year + 20 * 86400 ≤ s.instant year := by
  have hrmonth := hr.month_mem
  have hsmonth := hs.month_mem
  have hearlier := hr.instant_near year
  have hlater := hs.instant_near year
  have hnext : daysBeforeMonth (isLeap year) (r.month + 1) =
      daysBeforeMonth (isLeap year) r.month + daysInMonth year r.month :=
    daysBeforeMonth_succ year (by omega) (by omega)
  have hthird : daysBeforeMonth (isLeap year) (r.month + 2) =
      daysBeforeMonth (isLeap year) (r.month + 1) + daysInMonth year (r.month + 1) :=
    daysBeforeMonth_succ year (by omega) (by omega)
  have hle := daysBeforeMonth_le year (by omega) hmonths (by omega)
  have hlength := daysInMonth_mem year r.month
  have hlength' := daysInMonth_mem year (r.month + 1)
  omega

end Rule

/-! ## Seasons -/

namespace Season

/-- A season is **regular** if it saves at most a day, and if its rules keep away from the turn of
the year and from each other. -/
@[mk_iff] structure Regular (s : Season) : Prop where
  saving_mem : 0 < s.saving ∧ s.saving ≤ 86400
  begins_inner : s.begins.Inner
  ends_inner : s.ends.Inner
  apart : s.begins.month + 2 ≤ s.ends.month ∨ s.ends.month + 2 ≤ s.begins.month

instance (s : Season) : Decidable s.Regular :=
  decidable_of_iff _ (s.regular_iff).symm

namespace Regular

variable {s : Season} (hs : s.Regular)

include hs

/-- **Begins and ends take turns**, with twenty days between. -/
theorem begin_finish_begin (year : Int) :
    s.begins.instant year + 20 * 86400 ≤ s.finish year ∧
      s.finish year + 20 * 86400 ≤ s.begins.instant (year + 1) := by
  have hbegin := hs.begins_inner.instant_mem year
  have hnext := hs.begins_inner.instant_mem (year + 1)
  unfold finish
  rcases hs.apart with hapart | hapart
  · have hend := hs.ends_inner.instant_mem year
    have := hs.begins_inner.instant_apart hs.ends_inner hapart year
    rw [if_pos (by omega)]
    omega
  · have hend := hs.ends_inner.instant_mem (year + 1)
    have := hs.ends_inner.instant_apart hs.begins_inner hapart (year + 1)
    rw [if_neg (by omega)]
    omega

/-- A season is over before the seasons of later years begin. -/
theorem finish_add_le {y z : Int} (h : y < z) :
    s.finish y + 20 * 86400 ≤ s.begins.instant z := by
  have hnext := (hs.begin_finish_begin y).2
  rcases (show y + 1 ≤ z by omega).eq_or_lt with rfl | hlt
  · exact hnext
  · exact hnext.trans (hs.begins_inner.instant_lt hlt).le

/-- **Saving is on** from each begin to its end.

**Proof sketch.** A season looks for an instant in the season of its own year and in that of the
year before. A season that begins in a year does not begin before the year, and ends before the next
year does. -/
theorem covers_iff {instant : Int} :
    s.covers instant = true ↔
      ∃ year, s.begins.instant year ≤ instant ∧ instant < s.finish year := by
  have hin : ∀ year, s.coversIn year instant = true ↔
      s.begins.instant year ≤ instant ∧ instant < s.finish year := fun year => by
    simp [coversIn]
  simp only [covers, Bool.or_eq_true, hin]
  constructor
  · rintro (hcovers | hcovers)
    · exact ⟨_, hcovers⟩
    · exact ⟨_, hcovers⟩
  · rintro ⟨year, hbegin, hfinish⟩
    have hfirst := hs.begins_inner.instant_mem year
    have hlast := (hs.begin_finish_begin year).2
    have hnext := hs.begins_inner.instant_mem (year + 1)
    have hle : year ≤ yearOfDay (instant / 86400) := yearBegin_le_iff.1 (by omega)
    have hlt : ¬year + 1 + 1 ≤ yearOfDay (instant / 86400) := by
      rw [← yearBegin_le_iff]
      omega
    rcases (show year = yearOfDay (instant / 86400) ∨ year = yearOfDay (instant / 86400) - 1 by
      omega) with h | h
    · exact .inl (h ▸ ⟨hbegin, hfinish⟩)
    · exact .inr (h ▸ ⟨hbegin, hfinish⟩)

/-- If saving **comes on**, a season begins. -/
theorem exists_begin {change : Int} (hbefore : s.covers (change - 1) = false)
    (hafter : s.covers change = true) : ∃ year, s.begins.instant year = change := by
  obtain ⟨year, hbegin, hfinish⟩ := hs.covers_iff.1 hafter
  have hnot : ¬(s.begins.instant year ≤ change - 1 ∧ change - 1 < s.finish year) := fun h => by
    rw [hs.covers_iff.2 ⟨year, h⟩] at hbefore
    cases hbefore
  exact ⟨year, by omega⟩

/-- If saving **goes off**, a season ends. -/
theorem exists_finish {change : Int} (hbefore : s.covers (change - 1) = true)
    (hafter : s.covers change = false) : ∃ year, s.finish year = change := by
  obtain ⟨year, hbegin, hfinish⟩ := hs.covers_iff.1 hbefore
  have hnot : ¬(s.begins.instant year ≤ change ∧ change < s.finish year) := fun h => by
    rw [hs.covers_iff.2 ⟨year, h⟩] at hafter
    cases hafter
  exact ⟨year, by omega⟩

/-- **Around a begin**, saving is off for twenty days before and on for twenty days after. -/
theorem around_begin {year instant : Int} (hnear : s.begins.instant year - 20 * 86400 ≤ instant)
    (hnear' : instant < s.begins.instant year + 20 * 86400) :
    s.covers instant = decide (s.begins.instant year ≤ instant) := by
  have hlasts := (hs.begin_finish_begin year).1
  rw [Bool.eq_iff_iff, decide_eq_true_iff, hs.covers_iff]
  constructor
  · rintro ⟨other, hbegin, hfinish⟩
    by_contra hearly
    -- The season that would cover the instant began in an earlier year and is long over.
    have hearlier : other < year := by
      by_contra hle
      rcases (show year ≤ other by omega).eq_or_lt with rfl | hlt
      · exact hearly hbegin
      · have := hs.begins_inner.instant_lt hlt
        omega
    have := hs.finish_add_le hearlier
    omega
  · intro hbegin
    exact ⟨year, hbegin, by omega⟩

/-- **Around an end**, saving is on for twenty days before and off for twenty days after. -/
theorem around_finish {year instant : Int} (hnear : s.finish year - 20 * 86400 ≤ instant)
    (hnear' : instant < s.finish year + 20 * 86400) :
    s.covers instant = decide (instant < s.finish year) := by
  have hlasted := (hs.begin_finish_begin year).1
  rw [Bool.eq_iff_iff, decide_eq_true_iff, hs.covers_iff]
  constructor
  · rintro ⟨other, hbegin, hfinish⟩
    by_contra hover
    -- The season that would cover the instant begins in a later year, and that is a long time yet.
    have hlater : year < other := by
      by_contra hle
      rcases (show other ≤ year by omega).eq_or_lt with rfl | hlt
      · exact hover hfinish
      · have := hs.finish_add_le hlt
        omega
    have := hs.finish_add_le hlater
    omega
  · intro hfinish
    exact ⟨year, by omega, hfinish⟩

/-- **Saving stays** as it is for twenty days before a change and after it. -/
theorem covers_calm {change : Int} (hchange : s.covers (change - 1) ≠ s.covers change)
    {instant : Int} (hnear : change - 20 * 86400 ≤ instant)
    (hnear' : instant < change + 20 * 86400) :
    s.covers instant = if change ≤ instant then s.covers change else s.covers (change - 1) := by
  cases hafter : s.covers change with
  | true =>
    have hbefore : s.covers (change - 1) = false := by simpa [hafter] using hchange
    obtain ⟨year, rfl⟩ := hs.exists_begin hbefore hafter
    rw [hs.around_begin hnear hnear', hbefore]
    by_cases hle : s.begins.instant year ≤ instant <;> simp [hle]
  | false =>
    have hbefore : s.covers (change - 1) = true := by simpa [hafter] using hchange
    obtain ⟨year, rfl⟩ := hs.exists_finish hbefore hafter
    rw [hs.around_finish hnear hnear', hbefore]
    rcases lt_or_ge instant (s.finish year) with hlt | hge
    · simp [hlt, not_le.2 hlt]
    · simp [hge, not_lt.2 hge]

/-- Saving that is the same at two instants within twenty days is the same between them: after a
change it would stay changed. -/
theorem covers_eq_of_ends {first last instant : Int} (hnear : last < first + 20 * 86400)
    (hends : s.covers first = s.covers last) (hfirst : first ≤ instant) (hlast : instant ≤ last) :
    s.covers instant = s.covers first := by
  by_contra hne
  obtain ⟨change, hafter, hle, hchange⟩ := exists_change s.covers hfirst (Ne.symm hne)
  rw [hs.covers_calm hchange (show change - 20 * 86400 ≤ first by omega) (by omega),
    hs.covers_calm hchange (show change - 20 * 86400 ≤ last by omega) (by omega),
    if_neg (by omega), if_pos (by omega)] at hends
  exact hchange hends

/-- **No change is near the turn of a year.** -/
theorem change_inside_year {change : Int} (hchange : s.covers (change - 1) ≠ s.covers change) :
    ∃ year, yearBegin year + 20 * 86400 ≤ change ∧
      change + 20 * 86400 ≤ yearBegin (year + 1) := by
  cases hafter : s.covers change with
  | true =>
    obtain ⟨year, rfl⟩ := hs.exists_begin (by simpa [hafter] using hchange) hafter
    exact ⟨year, hs.begins_inner.instant_mem year⟩
  | false =>
    obtain ⟨year, rfl⟩ := hs.exists_finish (by simpa [hafter] using hchange) hafter
    exact ⟨_, hs.ends_inner.instant_mem _⟩

end Regular

end Season

end TimeWindow.Zone
