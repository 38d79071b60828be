import TimeWindow.Proofs.Zone.Clock

set_option autoImplicit false

/-!
# Offsets of local times

A zone has two tables: the offset of an instant, and the offset of a local time with its fold. The
second one says for each era when it is over on the local clock, which depends on the fold. The two
tables agree as soon as the same eras are over in both, and the present rules agree. So a local time
that a clock shows is taken back to the offset by which it was made, even in an hour that is shown
twice. A local time that is skipped at a change is read as if the clock had not been set at fold
zero, and as if it had been set before at fold one. Either way the instant found is one at which the
clock shows another time, further on or back by the length of the gap.

## Main results

* `TimeWindow.Zone.offsetOfLocal_eq` — the two tables agree if the same eras are over in both.
* `TimeWindow.Zone.Regular.offsetOfLocal_offsetAt` — the offset of a shown time is that of its
  instant.
* `TimeWindow.Zone.Regular.offsetOfLocal_of_skipsAt` — the offset of a skipped local time.
* `TimeWindow.Zone.Regular.clock_sub_offsetOfLocal` — a skipped local time is moved over the gap.
-/

namespace TimeWindow.Zone

/-- **The tables agree** for an instant and a local time if the same eras are over in both, and if
the present rules say the same where all of them are. -/
theorem offsetOfLocal_eq {z : Zone} {instant localSeconds : Int} {fold : Bool}
    (hover : ∀ e ∈ z.past, e.finish ≤ instant → z.localFinish fold e ≤ localSeconds)
    (hlasts : ∀ e ∈ z.past, instant < e.finish → z.offsetAt instant = e.offset →
      localSeconds < z.localFinish fold e)
    (hpresent : (∀ e ∈ z.past, e.finish ≤ instant) →
      z.presentOffsetOfLocal localSeconds fold = z.presentOffset instant) :
    z.offsetOfLocal localSeconds fold = z.offsetAt instant := by
  rcases z.exists_era_or_over instant with ⟨before, e, after, hpast, hbefore, he⟩ | hall
  · have hoffset := offsetAt_of_era hpast hbefore he
    rw [hoffset]
    exact offsetOfLocal_of_era hpast
      (fun b hb => hover b (by simp [hpast, hb]) (hbefore b hb))
      (hlasts e (by simp [hpast]) he hoffset)
  · rw [offsetOfLocal_of_no_era fun e he => hover e he (hall e he), hpresent hall,
      offsetAt_of_no_era hall]

namespace Regular

variable {z : Zone} (hz : z.Regular)

include hz

/-! ## Shown local times -/

section Shown

variable {e : Era} {instant : Int} (he : e ∈ z.past)

include he

/-- On the local clock, **an era is over when it is over**: the shown time has reached the local end
of every era that has ended.

**Proof sketch.** The local end is the end on the clock of the era or on the clock that follows it.
If the era ended two days ago, that is more than two clocks differ. Otherwise the clock that follows
it is the one at hand. At fold one the local end is the earlier of the two. At fold zero it is the
later one, and the clock of the era has passed the shown time, since the era does not repeat it. -/
theorem localFinish_le (hover : e.finish ≤ instant) :
    z.localFinish (z.foldAt instant) e ≤ instant + z.offsetAt instant := by
  have hown := hz.offset_near e he
  have hnext := hz.offsetAt_mem e.finish
  have hnow := hz.offsetAt_mem instant
  by_cases hlong : e.finish + 2 * 86400 ≤ instant
  · simp only [localFinish]
    split <;> omega
  · have hsame := hz.offsetAt_after he hover (by omega)
    cases hfold : z.foldAt instant with
    | true =>
      simp only [localFinish, if_true]
      omega
    | false =>
      have hpassed : ¬instant - e.finish < e.offset - z.offsetAt instant := fun h => by
        rw [(hz.foldAt_eq_true_iff instant).2 (.inl ⟨e, he, hover, h⟩)] at hfold
        cases hfold
      simp only [localFinish, Bool.false_eq_true, if_false]
      omega

/-- On the local clock, **an era lasts until it is over**: the shown time has not reached the local
end of the era of its instant. At fold one the clock was set back just before, so the era ends two
days later at least, or the clock is not set at its end. -/
theorem lt_localFinish (hlasts : instant < e.finish) (hoffset : z.offsetAt instant = e.offset) :
    instant + z.offsetAt instant < z.localFinish (z.foldAt instant) e := by
  have hown := hz.offset_near e he
  have hnext := hz.offsetAt_mem e.finish
  cases hfold : z.foldAt instant with
  | false =>
    simp only [localFinish, Bool.false_eq_true, if_false]
    omega
  | true =>
    obtain ⟨change, hle, hchange, hnow, hback⟩ := hz.exists_setBack hfold
    have hbefore := hz.offsetAt_mem (change - 1)
    simp only [localFinish, if_true]
    by_cases hlong : change + 2 * 86400 ≤ e.finish
    · omega
    · have hend : z.offsetAt e.finish = z.offsetAt change :=
        hz.offsetAt_from hchange (by omega) (by omega)
      omega

end Shown

section Present

variable {instant : Int} (hall : ∀ e ∈ z.past, e.finish ≤ instant)

include hall

/-- Without the saving and without a fold, the present rules had no saving a saving ago, either. If
they had, the clock was ahead by it: in the present by the rules, and otherwise because the era that
has ended in between did what the rules say. -/
theorem presentOffset_sub_saving (hplain : z.presentOffset instant = z.standard)
    (hfold : z.foldAt instant = false) :
    z.presentOffset (instant - z.saving) = z.standard := by
  have hmost := hz.saving_mem
  by_contra hne
  have hsaved := (z.presentOffset_cases (instant - z.saving)).resolve_left hne
  have hahead : z.offsetAt (instant - z.saving) = z.standard + z.saving := by
    by_cases hpresent : ∀ e ∈ z.past, e.finish ≤ instant - z.saving
    · rw [offsetAt_of_no_era hpresent, hsaved]
    · push Not at hpresent
      obtain ⟨e, he, hlasted⟩ := hpresent
      have hended := hall e he
      have hlast := hz.finish_le_of_near he hall (by omega)
      have hafter := hz.presentOffset_around_last he hlast
        (show e.finish - 2 * 86400 ≤ instant by omega) (by omega)
      have hbefore := hz.presentOffset_around_last he hlast
        (show e.finish - 2 * 86400 ≤ instant - z.saving by omega) (by omega)
      rw [hz.offsetAt_before he hlasted (by omega)]
      omega
  have hpos : z.saving ≠ 0 := fun hzero => hne (by rwa [hzero, sub_zero])
  have hnow : z.offsetAt instant = z.standard := by rw [offsetAt_of_no_era hall, hplain]
  rw [(hz.foldAt_eq_true_iff instant).2 (.inr ⟨by omega, by omega⟩)] at hfold
  cases hfold

/-- With the saving and with a fold, the clock was set back to the saving, and the present rules keep
it for the time of another saving. -/
theorem presentOffset_add_saving (hsaved : z.presentOffset instant = z.standard + z.saving)
    (hfold : z.foldAt instant = true) :
    z.presentOffset (instant + z.saving) = z.presentOffset instant := by
  have hmost := hz.saving_mem
  have hstandard := hz.standard_near
  have hnow : z.offsetAt instant = z.presentOffset instant := offsetAt_of_no_era hall
  obtain ⟨change, hle, hchange, hafter, hback⟩ := hz.exists_setBack hfold
  have hbefore := hz.offsetAt_mem (change - 1)
  have hlater : z.offsetAt (instant + z.saving) = z.offsetAt change :=
    hz.offsetAt_from hchange (by omega) (by omega)
  rw [offsetAt_of_no_era fun e he => (hall e he).trans (by omega)] at hlater
  rw [hlater, ← hafter, hnow]

/-- The present rules give a shown time in the present **the offset of its instant**. The local time
names its instant with the saving or without it, as it was made; the other way it names one that is a
saving later or earlier. -/
theorem presentOffsetOfLocal_offsetAt :
    z.presentOffsetOfLocal (instant + z.offsetAt instant) (z.foldAt instant) =
      z.presentOffset instant := by
  rw [presentOffsetOfLocal_eq, offsetAt_of_no_era hall]
  rcases z.presentOffset_cases instant with hplain | hsaved
  · cases hfold : z.foldAt instant with
    | true =>
      have hread : instant + z.presentOffset instant - z.standard - 0 = instant := by omega
      simp only [if_true, hread]
    | false =>
      have hread : instant + z.presentOffset instant - z.standard - z.saving =
          instant - z.saving := by omega
      simp only [Bool.false_eq_true, if_false, hread]
      rw [hz.presentOffset_sub_saving hall hplain hfold, hplain]
  · cases hfold : z.foldAt instant with
    | false =>
      have hread : instant + z.presentOffset instant - z.standard - z.saving = instant := by omega
      simp only [Bool.false_eq_true, if_false, hread]
    | true =>
      have hread : instant + z.presentOffset instant - z.standard - 0 = instant + z.saving := by
        omega
      simp only [if_true, hread]
      exact hz.presentOffset_add_saving hall hsaved hfold

end Present

/-- **The offset of a shown time** is the offset of its instant. -/
theorem offsetOfLocal_offsetAt (instant : Int) :
    z.offsetOfLocal (instant + z.offsetAt instant) (z.foldAt instant) = z.offsetAt instant :=
  offsetOfLocal_eq (fun _ he => hz.localFinish_le he) (fun _ he => hz.lt_localFinish he)
    fun hall => hz.presentOffsetOfLocal_offsetAt hall

/-! ## Skipped local times -/

section Skipped

variable {change localSeconds : Int} (h : z.SkipsAt change localSeconds)

include h

/-- On the local clock, the eras that end before a change are over at a time that is skipped there,
whatever the fold is. -/
theorem localFinish_le_of_skipsAt {e : Era} (he : e ∈ z.past) (hover : e.finish < change)
    (fold : Bool) : z.localFinish fold e ≤ localSeconds := by
  have hchange := h.changesAt
  have hown := hz.offset_near e he
  have hnext := hz.offsetAt_mem e.finish
  have hkept := hz.offsetAt_mem (change - 1)
  unfold SkipsAt at h
  by_cases hlong : e.finish + 2 * 86400 ≤ change
  · simp only [localFinish]
    split <;> omega
  · -- The era ended shortly before the change, so the clock was not set at its end.
    have hbefore : z.offsetAt (e.finish - 1) = z.offsetAt (change - 1) :=
      hz.offsetAt_upTo hchange (by omega) (by omega)
    have hend : z.offsetAt e.finish = z.offsetAt (change - 1) :=
      hz.offsetAt_upTo hchange (by omega) (by omega)
    rw [hz.offsetAt_before he (by omega) (by omega)] at hbefore
    simp only [localFinish]
    split <;> omega

/-- The offset of a skipped local time **at fold zero** is the one kept before the change: an era
goes on until its own clock would be past the local time, and read with the saving the local time is
before the change. -/
theorem offsetOfLocal_before : z.offsetOfLocal localSeconds false = z.offsetAt (change - 1) := by
  have hchange := h.changesAt
  have hskips := h
  have hdiffer := hz.offsetAt_sub_le change (change - 1)
  have hmost := hz.saving_mem
  unfold SkipsAt at hskips
  refine offsetOfLocal_eq (fun e he hover => hz.localFinish_le_of_skipsAt h he (by omega) false)
    (fun e he hlasts _ => ?_) fun hall => ?_
  · have hnext := hz.offsetAt_mem e.finish
    have hnow := hz.offsetAt_mem change
    simp only [localFinish, Bool.false_eq_true, if_false]
    by_cases hlong : change + 2 * 86400 ≤ e.finish
    · omega
    · have hend : z.offsetAt e.finish = z.offsetAt change :=
        hz.offsetAt_from hchange (by omega) (by omega)
      omega
  · have hall' : ∀ e ∈ z.past, e.finish ≤ change := fun e he => (hall e he).trans (by omega)
    unfold ChangesAt at hchange
    rw [offsetAt_of_no_era hall, offsetAt_of_no_era hall'] at hchange hskips
    have hset : z.presentOffset (change - 1) = z.standard ∧
        z.presentOffset change = z.standard + z.saving := by
      rcases z.presentOffset_cases (change - 1) with hbefore | hbefore <;>
        rcases z.presentOffset_cases change with hnow | hnow <;> omega
    rw [presentOffsetOfLocal_eq, if_neg (by decide),
      hz.presentOffset_calm hchange (by omega) (by omega), if_neg (by omega)]

/-- The offset of a skipped local time **at fold one** is the one kept after the change: the local
time has reached the end of the era that ends there, and read without the saving it is at the change
or later. If it is not, the era had less than the standard offset, and the present rules change
nothing there. -/
theorem offsetOfLocal_after : z.offsetOfLocal localSeconds true = z.offsetAt change := by
  have hchange := h.changesAt
  have hskips := h
  have hkept := hz.offsetAt_mem (change - 1)
  have hnow := hz.offsetAt_mem change
  have hmost := hz.saving_mem
  have hstandard := hz.standard_near
  unfold SkipsAt at hskips
  refine offsetOfLocal_eq (fun e he hover => ?_) (fun e he hlasts _ => ?_) fun hall => ?_
  · rcases hover.lt_or_eq with hlt | rfl
    · exact hz.localFinish_le_of_skipsAt h he hlt true
    · rw [hz.offsetAt_before he (by omega) (by omega)] at hskips
      simp only [localFinish, if_true]
      omega
  · have hown := hz.offset_near e he
    have hnext := hz.offsetAt_mem e.finish
    simp only [localFinish, if_true]
    by_cases hlong : change + 2 * 86400 ≤ e.finish
    · omega
    · have hend : z.offsetAt e.finish = z.offsetAt change :=
        hz.offsetAt_from hchange (by omega) (by omega)
      have hbefore : z.offsetAt (e.finish - 1) = z.offsetAt change :=
        hz.offsetAt_from hchange (by omega) (by omega)
      rw [hz.offsetAt_before he (by omega) (by omega)] at hbefore
      omega
  · have hpresent : z.offsetAt change = z.presentOffset change := offsetAt_of_no_era hall
    have hcases := z.presentOffset_cases change
    rw [presentOffsetOfLocal_eq, if_pos rfl]
    by_cases hlate : change ≤ localSeconds - z.standard - 0
    · have hread : z.offsetAt (localSeconds - z.standard - 0) = z.offsetAt change :=
        hz.offsetAt_from hchange hlate (by omega)
      rwa [offsetAt_of_no_era fun e he => (hall e he).trans hlate, hpresent] at hread
    · obtain ⟨e, he, rfl⟩ : ∃ e ∈ z.past, e.finish = change := by
        rcases changesAt_cases hchange with hera | ⟨hall', -⟩
        · exact hera
        · have hrules := z.presentOffset_cases (change - 1)
          rw [offsetAt_of_no_era hall'] at hskips
          omega
      have hown := hz.offsetAt_before he (show e.finish - 1 < e.finish by omega) (by omega)
      have hread := z.presentOffset_cases (localSeconds - z.standard - 0)
      exact (hz.presentOffset_around_last he hall (by omega) (by omega)).resolve_right (by omega)

/-- **The offset of a skipped local time** is the one kept before the change at fold zero, and the
one kept after it at fold one. -/
theorem offsetOfLocal_of_skipsAt (fold : Bool) :
    z.offsetOfLocal localSeconds fold =
      if fold then z.offsetAt change else z.offsetAt (change - 1) := by
  cases fold with
  | false => exact hz.offsetOfLocal_before h
  | true => exact hz.offsetOfLocal_after h

/-- **A skipped local time is moved over the gap**: at the instant that it is read as, the clock
shows the local time further on by the length of the gap at fold zero, and further back at fold
one. -/
theorem clock_sub_offsetOfLocal (fold : Bool) :
    z.clock (localSeconds - z.offsetOfLocal localSeconds fold) =
      localSeconds + if fold then -z.gapLength change else z.gapLength change := by
  have hskips := h
  have hdiffer := hz.offsetAt_sub_le change (change - 1)
  unfold SkipsAt at hskips
  rw [hz.offsetOfLocal_of_skipsAt h, clock, gapLength]
  cases fold with
  | false =>
    have hlate : z.offsetAt (localSeconds - z.offsetAt (change - 1)) = z.offsetAt change :=
      hz.offsetAt_from h.changesAt (by omega) (by omega)
    simp only [Bool.false_eq_true, if_false, hlate]
    omega
  | true =>
    have hearly : z.offsetAt (localSeconds - z.offsetAt change) = z.offsetAt (change - 1) :=
      hz.offsetAt_upTo h.changesAt (by omega) (by omega)
    simp only [if_true, hearly]
    omega

/-- The instant that a skipped local time of the calendar is read as is shown as one. -/
theorem clock_inside_calendar (hmem : yearBegin 1 ≤ localSeconds ∧ localSeconds < yearBegin 10000)
    (fold : Bool) :
    yearBegin 1 ≤ z.clock (localSeconds - z.offsetOfLocal localSeconds fold) ∧
      z.clock (localSeconds - z.offsetOfLocal localSeconds fold) < yearBegin 10000 := by
  have hinside := hz.change_inside_calendar h.changesAt
  have hbefore := hz.offsetAt_mem (change - 1)
  have hafter := hz.offsetAt_mem change
  rw [hz.clock_sub_offsetOfLocal h]
  unfold SkipsAt at h
  unfold gapLength
  split <;> omega

end Skipped

end Regular

end TimeWindow.Zone
