import Mathlib.Data.Int.LeastGreatest
import TimeWindow.Proofs.Zone.Changes

set_option autoImplicit false

/-!
# What a clock shows

The clock of a zone is set at changes of the offset. Set back, it shows some local times a second
time; set forward, it skips some. The fold is set exactly where the clock repeats itself, so
that a local time with its fold belongs to one instant. A local time that is skipped belongs to
none.

## Main definitions

* `TimeWindow.Zone.clock` — the local time at an instant.
* `TimeWindow.Zone.Shows`, `TimeWindow.Zone.ShowsTwice` — a local time is shown, or shown twice.
* `TimeWindow.Zone.SkipsAt`, `TimeWindow.Zone.gapLength` — a local time is skipped at a change, and
  the time that is skipped there.

## Main results

* `TimeWindow.Zone.Regular.foldAt_eq_true_iff_earlier` — the fold is set where the clock repeats
  itself.
* `TimeWindow.Zone.Regular.exists_clock_eq` — a shown local time belongs to an instant with its
  fold.
* `TimeWindow.Zone.Regular.not_shows_iff` — the local times that are not shown are skipped at a
  change.
-/

namespace TimeWindow.Zone

/-! ## The clock -/

/-- The **clock** of a zone: the local time that it shows at an instant, in seconds. -/
def clock (z : Zone) (instant : Int) : Int :=
  instant + z.offsetAt instant

/-- The clock **shows** a local time at some instant. -/
def Shows (z : Zone) (localSeconds : Int) : Prop :=
  ∃ instant, z.clock instant = localSeconds

/-- The clock shows a local time **twice**: at an instant and at a later one. -/
def ShowsTwice (z : Zone) (localSeconds : Int) : Prop :=
  ∃ first second, first < second ∧ z.clock first = localSeconds ∧ z.clock second = localSeconds

/-- The clock **skips** a local time at a change: by the offset kept up to the change, it would show
the local time at the change or later, and by the offset kept from the change on it is past the
local time at the change already. -/
def SkipsAt (z : Zone) (change localSeconds : Int) : Prop :=
  change + z.offsetAt (change - 1) ≤ localSeconds ∧ localSeconds < change + z.offsetAt change

/-- The **length of the gap** that a change makes: how far the clock is set forward. -/
def gapLength (z : Zone) (change : Int) : Int :=
  z.offsetAt change - z.offsetAt (change - 1)

/-- The clock is set at a change that skips a local time. -/
theorem SkipsAt.changesAt {z : Zone} {change localSeconds : Int}
    (h : z.SkipsAt change localSeconds) : z.ChangesAt change := fun hsame => by
  unfold SkipsAt at h
  omega

namespace Regular

variable {z : Zone} (hz : z.Regular)

include hz

/-! ## Local times shown twice -/

/-- **The fold is set where the clock repeats itself**: where it showed the same local time before.

**Proof sketch.** For as long after a change as the clock was set back, it shows what it showed so
much earlier, before the change. Conversely, two instants with the same local time have different
offsets, so there is a change between them; they lie near it, so that one has the offset kept before
and the other the offset kept after, and the change set the clock back by the time between the
instants. -/
theorem foldAt_eq_true_iff_earlier (instant : Int) :
    z.foldAt instant = true ↔ ∃ earlier < instant, z.clock earlier = z.clock instant := by
  rw [hz.foldAt_eq_true_iff_setBack]
  unfold clock
  constructor
  · rintro ⟨change, hle, hback⟩
    have hchange : z.ChangesAt change := fun hsame => by omega
    have hdiffer := hz.offsetAt_sub_le (change - 1) change
    have hafter : z.offsetAt instant = z.offsetAt change :=
      hz.offsetAt_from hchange hle (by omega)
    let earlier := instant - (z.offsetAt (change - 1) - z.offsetAt change)
    have hbefore : z.offsetAt earlier = z.offsetAt (change - 1) :=
      hz.offsetAt_upTo hchange (by omega) (by omega)
    exact ⟨earlier, by omega, by omega⟩
  · rintro ⟨earlier, hlt, hsame⟩
    obtain ⟨change, hafter, hle, hchange⟩ := exists_changesAt hlt.le
      (show z.offsetAt earlier ≠ z.offsetAt instant by omega)
    have hdiffer := hz.offsetAt_sub_le earlier instant
    have hlast : z.offsetAt instant = z.offsetAt change :=
      hz.offsetAt_from hchange hle (by omega)
    have hfirst : z.offsetAt earlier = z.offsetAt (change - 1) :=
      hz.offsetAt_upTo hchange (by omega) (by omega)
    exact ⟨change, hle, by omega⟩

/-- A local time is shown first without a fold. -/
theorem exists_first {localSeconds : Int} (h : z.Shows localSeconds) :
    ∃ instant, z.clock instant = localSeconds ∧ z.foldAt instant = false := by
  obtain ⟨first, hfirst, hleast⟩ :=
    Int.exists_least_of_bdd (P := fun instant => z.clock instant = localSeconds)
      ⟨localSeconds - 2 * 86400, fun instant hinstant => by
        have := hz.offsetAt_mem instant
        unfold clock at hinstant
        omega⟩ h
  refine ⟨first, hfirst, Bool.eq_false_iff.2 fun hfold => ?_⟩
  obtain ⟨earlier, hlt, hsame⟩ := (hz.foldAt_eq_true_iff_earlier first).1 hfold
  have := hleast earlier (hsame.trans hfirst)
  omega

/-- **A shown local time belongs to an instant with its fold**, if the fold is only set for a local
time that is shown twice. -/
theorem exists_clock_eq {localSeconds : Int} {fold : Bool} (hshows : z.Shows localSeconds)
    (hfold : fold = true → z.ShowsTwice localSeconds) :
    ∃ instant, z.clock instant = localSeconds ∧ z.foldAt instant = fold := by
  cases fold with
  | false => exact hz.exists_first hshows
  | true =>
    obtain ⟨first, second, hlt, hfirst, hsecond⟩ := hfold rfl
    exact ⟨second, hsecond,
      (hz.foldAt_eq_true_iff_earlier second).2 ⟨first, hlt, hfirst.trans hsecond.symm⟩⟩

/-! ## Skipped local times -/

/-- A skipped local time is not shown: before the change the clock has not reached it, and from the
change on it is past it. -/
theorem not_shows_of_skipsAt {change localSeconds : Int} (h : z.SkipsAt change localSeconds) :
    ¬z.Shows localSeconds := by
  rintro ⟨instant, hinstant⟩
  have hchange := h.changesAt
  unfold SkipsAt at h
  unfold clock at hinstant
  rcases lt_or_ge instant change with hlt | hge
  · have hdiffer := hz.offsetAt_sub_le instant (change - 1)
    have := hz.offsetAt_upTo hchange hlt (by omega)
    omega
  · have hdiffer := hz.offsetAt_sub_le change instant
    have := hz.offsetAt_from hchange hge (by omega)
    omega

/-- A local time that is not shown is skipped where the clock first gets past it. -/
theorem exists_skipsAt {localSeconds : Int} (h : ¬z.Shows localSeconds) :
    ∃ change, z.SkipsAt change localSeconds := by
  obtain ⟨change, hpast, hleast⟩ :=
    Int.exists_least_of_bdd (P := fun instant => localSeconds ≤ z.clock instant)
      ⟨localSeconds - 2 * 86400, fun instant hinstant => by
        have := hz.offsetAt_mem instant
        unfold clock at hinstant
        omega⟩
      ⟨localSeconds + 86400, by
        have := hz.offsetAt_mem (localSeconds + 86400)
        unfold clock
        omega⟩
  have hnever : z.clock change ≠ localSeconds := fun heq => h ⟨change, heq⟩
  have hbefore : ¬localSeconds ≤ z.clock (change - 1) := fun hle => by
    have := hleast _ hle
    omega
  refine ⟨change, ?_⟩
  unfold clock at hpast hnever hbefore
  unfold SkipsAt
  omega

/-- **The local times that are not shown** are those that are skipped at a change. -/
theorem not_shows_iff {localSeconds : Int} :
    ¬z.Shows localSeconds ↔ ∃ change, z.SkipsAt change localSeconds :=
  ⟨hz.exists_skipsAt, fun ⟨_, h⟩ => hz.not_shows_of_skipsAt h⟩

end Regular

end TimeWindow.Zone
