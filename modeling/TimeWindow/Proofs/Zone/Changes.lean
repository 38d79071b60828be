import TimeWindow.Proofs.Zone.Offsets

set_option autoImplicit false

/-!
# Changes of the offset

The offset of a regular zone changes when an era is over or, once all eras are, when saving comes on
or goes off. Between two changes there is time enough that the offset of any instant near a change
is the one kept up to the change or the one kept from it on. That is all that has to be known of the
two kinds of change: what a clock shows twice and what it skips follows from it.

## Main definitions

* `TimeWindow.Zone.ChangesAt` — the offset changes at an instant.

## Main results

* `TimeWindow.Zone.exists_changesAt` — between instants of different offsets there is a change.
* `TimeWindow.Zone.changesAt_cases` — a change is the end of an era, or one of the present rules.
* `TimeWindow.Zone.Regular.offsetAt_from`, `TimeWindow.Zone.Regular.offsetAt_upTo` — two days around
  a change there is no other.
* `TimeWindow.Zone.Regular.change_inside_calendar` — no change is near the first or the last day of
  the calendar.
* `TimeWindow.Zone.Regular.foldAt_eq_true_iff_setBack` — the fold is set for as long after a change
  as the clock was set back.
-/

namespace TimeWindow.Zone

/-! ## Changes -/

/-- The offset **changes at** an instant: the second before has another. -/
def ChangesAt (z : Zone) (change : Int) : Prop :=
  z.offsetAt (change - 1) ≠ z.offsetAt change

/-- **Between instants of different offsets** there is a change. -/
theorem exists_changesAt {z : Zone} {first last : Int} (hle : first ≤ last)
    (hne : z.offsetAt first ≠ z.offsetAt last) :
    ∃ change, first < change ∧ change ≤ last ∧ z.ChangesAt change :=
  exists_change z.offsetAt hle hne

/-- **A change is the end of an era**, or one of the present rules once all eras are over. -/
theorem changesAt_cases {z : Zone} {change : Int} (h : z.ChangesAt change) :
    (∃ e ∈ z.past, e.finish = change) ∨
      (∀ e ∈ z.past, e.finish ≤ change - 1) ∧
        z.presentOffset (change - 1) ≠ z.presentOffset change := by
  unfold ChangesAt at h
  rcases z.exists_era_or_over (change - 1) with ⟨before, e, after, hpast, hbefore, hlasts⟩ | hover
  · refine .inl ⟨e, by simp [hpast], ?_⟩
    by_contra hne
    -- The era goes on at the change.
    apply h
    rw [offsetAt_of_era hpast hbefore hlasts,
      offsetAt_of_era hpast (fun b hb => (hbefore b hb).trans (by omega)) (by omega)]
  · rw [offsetAt_of_no_era hover,
      offsetAt_of_no_era fun e he => (hover e he).trans (by omega)] at h
    exact .inr ⟨hover, h⟩

namespace Regular

variable {z : Zone} (hz : z.Regular)

include hz

/-- Two offsets differ by two days at most. -/
theorem offsetAt_sub_le (first second : Int) :
    z.offsetAt first - z.offsetAt second ≤ 2 * 86400 := by
  have hfirst := hz.offsetAt_mem first
  have hsecond := hz.offsetAt_mem second
  omega

/-- The eras that are over at a change of the present rules have been so for two days: the rules
change nothing in the two days after the last of them. -/
theorem finish_add_le_of_change {change : Int} (hover : ∀ e ∈ z.past, e.finish ≤ change - 1)
    (hchange : z.presentOffset (change - 1) ≠ z.presentOffset change) {e : Era} (he : e ∈ z.past) :
    e.finish + 2 * 86400 < change := by
  by_contra hnear
  have hlast := hz.finish_le_of_near he hover (by omega)
  have hended := hover e he
  have hbefore := hz.presentOffset_around_last he hlast
    (show e.finish - 2 * 86400 ≤ change - 1 by omega) (by omega)
  have hafter := hz.presentOffset_around_last he hlast
    (show e.finish - 2 * 86400 ≤ change by omega) (by omega)
  exact hchange ((hbefore.resolve_right (by omega)).trans (hafter.resolve_right (by omega)).symm)

/-- In the two days before a change of the present rules, and from it on, all eras are over. -/
theorem offsetAt_of_change {change : Int} (hover : ∀ e ∈ z.past, e.finish ≤ change - 1)
    (hchange : z.presentOffset (change - 1) ≠ z.presentOffset change) {instant : Int}
    (hnear : change - 2 * 86400 ≤ instant) : z.offsetAt instant = z.presentOffset instant :=
  offsetAt_of_no_era fun e he => by
    have := hz.finish_add_le_of_change hover hchange he
    omega

section Calm

variable {change instant : Int} (hchange : z.ChangesAt change)

include hchange

/-- **From a change on** the offset lasts two days. -/
theorem offsetAt_from (hle : change ≤ instant) (hnear : instant < change + 2 * 86400) :
    z.offsetAt instant = z.offsetAt change := by
  rcases changesAt_cases hchange with ⟨e, he, rfl⟩ | ⟨hover, hpresent⟩
  · exact hz.offsetAt_after he hle hnear
  · rw [hz.offsetAt_of_change hover hpresent (by omega),
      hz.offsetAt_of_change hover hpresent (by omega),
      hz.presentOffset_calm hpresent (by omega) (by omega), if_pos hle]

/-- **Up to a change** the offset has lasted two days. -/
theorem offsetAt_upTo (hlt : instant < change) (hnear : change - 2 * 86400 ≤ instant) :
    z.offsetAt instant = z.offsetAt (change - 1) := by
  rcases changesAt_cases hchange with ⟨e, he, rfl⟩ | ⟨hover, hpresent⟩
  · rw [hz.offsetAt_before he hlt hnear, hz.offsetAt_before he (by omega) (by omega)]
  · rw [hz.offsetAt_of_change hover hpresent hnear,
      hz.offsetAt_of_change hover hpresent (by omega),
      hz.presentOffset_calm hpresent (by omega) (by omega), if_neg (by omega)]

end Calm

/-- **No change is near an end of the calendar**: it is twenty days before the year 1, or twenty
days after the year 9999, or twenty days inside. -/
theorem change_inside_calendar {change : Int} (hchange : z.ChangesAt change) :
    change + 20 * 86400 ≤ yearBegin 1 ∨ yearBegin 10000 + 20 * 86400 ≤ change ∨
      yearBegin 1 + 20 * 86400 ≤ change ∧ change + 20 * 86400 ≤ yearBegin 10000 := by
  rcases changesAt_cases hchange with ⟨e, he, rfl⟩ | ⟨-, hpresent⟩
  · have hnear := hz.finish_near e he
    have hfirst : yearBegin 1 = -62135596800 := by decide
    have hlast : yearBegin 10000 = 253402300800 := by decide
    omega
  · obtain ⟨s, hseason, hcovers⟩ := exists_season_of_change hpresent
    obtain ⟨year, hbegin, hend⟩ := (hz.season_regular s hseason).change_inside_year hcovers
    by_cases hfirst : year < 1
    · have := yearBegin_le (show year + 1 ≤ 1 by omega)
      omega
    · by_cases hlast : 10000 ≤ year
      · have := yearBegin_le hlast
        omega
      · have := yearBegin_le (show 1 ≤ year by omega)
        have := yearBegin_le (show year + 1 ≤ 10000 by omega)
        omega

/-! ## The fold -/

/-- The fold says whether an era was over by less than the clock was set back, or the clock was
ahead by the saving as long ago. -/
theorem foldAt_eq_true_iff (instant : Int) :
    z.foldAt instant = true ↔
      (∃ e ∈ z.past, e.finish ≤ instant ∧ instant - e.finish < e.offset - z.offsetAt instant) ∨
        0 < z.saving ∧ z.offsetAt (instant - z.saving) = z.offsetAt instant + z.saving := by
  have hera : (z.past.any fun era => era.showedBefore z instant) = true ↔
      ∃ e ∈ z.past, e.finish ≤ instant ∧ instant - e.finish < e.offset - z.offsetAt instant := by
    simp [Era.showedBefore]
  rw [foldAt, Bool.or_eq_true, hera]
  refine or_congr_right ?_
  unfold saving
  cases hseason : z.season with
  | none => simp
  | some s => simp [(hz.season_regular s hseason).saving_mem.1]

/-- **The fold is set** for as long after a change as the clock was set back by it.

**Proof sketch.** If an era was over by less than the clock was set back, its end is the change. If
the clock was ahead by the saving as long ago, there was a change since, and the instants lie near
it, one on each side. Conversely a change that sets the clock back is the end of an era, or one of
the present rules, which set it back by the saving. -/
theorem foldAt_eq_true_iff_setBack (instant : Int) :
    z.foldAt instant = true ↔ ∃ change ≤ instant,
      instant - change < z.offsetAt (change - 1) - z.offsetAt change := by
  rw [hz.foldAt_eq_true_iff]
  constructor
  · rintro (⟨e, he, hover, hback⟩ | ⟨hpos, hback⟩)
    · have hera := hz.offset_near e he
      have hinstant := hz.offsetAt_mem instant
      refine ⟨e.finish, hover, ?_⟩
      rwa [hz.offsetAt_before he (by omega) (by omega), ← hz.offsetAt_after he hover (by omega)]
    · have hmost := hz.saving_mem
      obtain ⟨change, hfirst, hle, hchange⟩ := exists_changesAt
        (show instant - z.saving ≤ instant by omega)
        (show z.offsetAt (instant - z.saving) ≠ z.offsetAt instant by omega)
      have hearlier : z.offsetAt (instant - z.saving) = z.offsetAt (change - 1) :=
        hz.offsetAt_upTo hchange (by omega) (by omega)
      have hlater : z.offsetAt instant = z.offsetAt change :=
        hz.offsetAt_from hchange hle (by omega)
      exact ⟨change, hle, by omega⟩
  · rintro ⟨change, hle, hback⟩
    have hchange : z.ChangesAt change := fun hsame => by omega
    have hdiffer := hz.offsetAt_sub_le (change - 1) change
    have hafter : z.offsetAt instant = z.offsetAt change :=
      hz.offsetAt_from hchange hle (by omega)
    rcases changesAt_cases hchange with ⟨e, he, rfl⟩ | ⟨hover, -⟩
    · rw [hz.offsetAt_before he (by omega) (by omega)] at hback
      exact .inl ⟨e, he, hle, by omega⟩
    · right
      have hsaved : z.offsetAt (change - 1) = z.offsetAt change + z.saving := by
        rw [offsetAt_of_no_era hover,
          offsetAt_of_no_era fun e he => (hover e he).trans (by omega)] at hback ⊢
        have hmost := hz.saving_mem
        rcases z.presentOffset_cases (change - 1) with hbefore | hbefore <;>
          rcases z.presentOffset_cases change with hnow | hnow <;> omega
      rw [hafter, hz.offsetAt_upTo hchange (by omega) (by omega)]
      exact ⟨by omega, hsaved⟩

/-- At an instant with the fold, the clock **was set back** not long ago, and its offset is the one
kept since. -/
theorem exists_setBack {instant : Int} (h : z.foldAt instant = true) :
    ∃ change ≤ instant, z.ChangesAt change ∧ z.offsetAt instant = z.offsetAt change ∧
      instant - change < z.offsetAt (change - 1) - z.offsetAt change := by
  obtain ⟨change, hle, hback⟩ := (hz.foldAt_eq_true_iff_setBack instant).1 h
  have hchange : z.ChangesAt change := fun hsame => by omega
  have hdiffer := hz.offsetAt_sub_le (change - 1) change
  exact ⟨change, hle, hchange, hz.offsetAt_from hchange hle (by omega), hback⟩

end Regular

end TimeWindow.Zone
