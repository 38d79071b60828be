import Mathlib.Tactic.MkIffOfInductiveProp
import TimeWindow.Zone.Key
import TimeWindow.Proofs.Outcome
import TimeWindow.Proofs.Zone.Seasons

set_option autoImplicit false

/-!
# Offsets of zones

A zone goes through its eras one after the other, and then follows its present rules. A zone is
*regular* if its offsets are those of places on the earth and its changes lie further apart than two
offsets can differ. That includes the change from the last era to the season: the rules may change
nothing around it, or what they change there must be that very change. So a zone may have kept other
offsets, or other rules, for as long as it likes before the present ones. All known zones are
regular. A regular zone makes no change near the ends of the calendar either.

## Main definitions

* `TimeWindow.Zone.TakesOver` — a season follows an era without interfering.
* `TimeWindow.Zone.Regular` — a zone whose changes do not interfere.
* `TimeWindow.Zone.saving` — how much a zone saves.

## Main results

* `TimeWindow.Zone.regular_of_find?` — every zone that has a key is regular.
* `TimeWindow.Zone.Regular.presentOffset_calm` — the present rules change nothing for twenty days
  around a change.
* `TimeWindow.Zone.Regular.offsetAt_after`, `TimeWindow.Zone.Regular.offsetAt_before` — the offsets
  for two days after the end of an era and before it.
-/

namespace TimeWindow.Zone

/-! ## Regular zones -/

/-- The season of a zone **takes over** from an era: around the end of the era its rules change
nothing for two days, or they make a change just then, and up to it they say what the era does. -/
def TakesOver (z : Zone) (s : Season) (e : Era) : Prop :=
  s.covers (e.finish - 2 * 86400) = s.covers (e.finish + 2 * 86400) ∨
    s.covers (e.finish - 1) ≠ s.covers e.finish ∧ z.presentOffset (e.finish - 1) = e.offset

instance (z : Zone) (s : Season) (e : Era) : Decidable (z.TakesOver s e) :=
  inferInstanceAs (Decidable (_ ∨ _ ∧ _))

/-- A zone is **regular** if its offsets are those of places on the earth, also with the saving, its
season is regular, and its eras last at least two days, end some three hundred years around the
epoch, and give way to the season after the last of them. -/
@[mk_iff] structure Regular (z : Zone) : Prop where
  standard_near : -86400 ≤ z.standard ∧ z.standard ≤ 86400
  season_regular : ∀ s ∈ z.season, s.Regular
  saving_near : ∀ s ∈ z.season, z.standard + s.saving ≤ 86400
  offset_near : ∀ e ∈ z.past, -86400 ≤ e.offset ∧ e.offset ≤ 86400
  finish_near : ∀ e ∈ z.past, -10000000000 ≤ e.finish ∧ e.finish ≤ 10000000000
  spaced : z.past.Pairwise fun e later => e.finish + 2 * 86400 ≤ later.finish
  takesOver : ∀ s ∈ z.season, ∀ e ∈ z.past, (∀ other ∈ z.past, other.finish ≤ e.finish) →
    z.TakesOver s e

instance (z : Zone) : Decidable z.Regular :=
  decidable_of_iff _ (z.regular_iff).symm

/-- All **known zones are regular**. -/
theorem regular_of_mem_known : ∀ z ∈ known, z.Regular := by
  decide

/-- New York with the rules up to 2006, for one year, and the winter up to the first change by the
present rules. The season of the present rules begins when the last era ends. -/
example : Regular { northAmerican "America/New_York" (-18000) with
    past := [⟨-18000, 1143961200⟩, ⟨-14400, 1162101600⟩, ⟨-18000, 1173596400⟩] } := by
  decide +kernel

/-- A zone that has a key is one of the known zones. -/
theorem mem_known_of_find? {key : Text} {z : Zone} (h : find? key = .ok z) : z ∈ known := by
  obtain ⟨_, -, h⟩ := Outcome.bind_eq_ok_iff.1 h
  split at h
  · next found hfound =>
    cases h
    exact List.mem_of_find?_eq_some hfound
  · cases h

/-- **Every zone that has a key is regular**: it is one of the known zones. -/
theorem regular_of_find? {key : Text} {z : Zone} (h : find? key = .ok z) : z.Regular :=
  regular_of_mem_known z (mem_known_of_find? h)

/-! ## The tables -/

/-- An instant belongs to the first era that ends later. -/
theorem offsetAt_of_era {z : Zone} {before after : List Era} {e : Era} {instant : Int}
    (hpast : z.past = before ++ e :: after) (hbefore : ∀ b ∈ before, b.finish ≤ instant)
    (he : instant < e.finish) : z.offsetAt instant = e.offset := by
  have hfind : z.past.find? (fun era => instant < era.finish) = some e := by
    rw [List.find?_eq_some_iff_append]
    exact ⟨by simpa using he, before, after, hpast, fun b hb => by simpa using hbefore b hb⟩
  rw [offsetAt, hfind]

/-- An instant belongs to the present if all eras are over. -/
theorem offsetAt_of_no_era {z : Zone} {instant : Int}
    (hpast : ∀ e ∈ z.past, e.finish ≤ instant) : z.offsetAt instant = z.presentOffset instant := by
  have hfind : z.past.find? (fun era => instant < era.finish) = none := by
    rw [List.find?_eq_none]
    exact fun e he => by simpa using hpast e he
  rw [offsetAt, hfind]

/-- The first era of which a local time has not reached the end gives its offset. -/
theorem offsetOfLocal_of_era {z : Zone} {before after : List Era} {e : Era} {localSeconds : Int}
    {fold : Bool} (hpast : z.past = before ++ e :: after)
    (hbefore : ∀ b ∈ before, z.localFinish fold b ≤ localSeconds)
    (he : localSeconds < z.localFinish fold e) : z.offsetOfLocal localSeconds fold = e.offset := by
  have hfind : z.past.find? (fun era => localSeconds < z.localFinish fold era) = some e := by
    rw [List.find?_eq_some_iff_append]
    exact ⟨by simpa using he, before, after, hpast, fun b hb => by simpa using hbefore b hb⟩
  rw [offsetOfLocal, hfind]

/-- A local time that has reached the ends of all eras has the present offset. -/
theorem offsetOfLocal_of_no_era {z : Zone} {localSeconds : Int} {fold : Bool}
    (hpast : ∀ e ∈ z.past, z.localFinish fold e ≤ localSeconds) :
    z.offsetOfLocal localSeconds fold = z.presentOffsetOfLocal localSeconds fold := by
  have hfind : z.past.find? (fun era => localSeconds < z.localFinish fold era) = none := by
    rw [List.find?_eq_none]
    exact fun e he => by simpa using hpast e he
  rw [offsetOfLocal, hfind]

/-- **The eras around an instant**: either one of them is the first that ends later, or all are
over. -/
theorem exists_era_or_over (z : Zone) (instant : Int) :
    (∃ before e after, z.past = before ++ e :: after ∧ (∀ b ∈ before, b.finish ≤ instant) ∧
      instant < e.finish) ∨ ∀ e ∈ z.past, e.finish ≤ instant := by
  cases hfind : z.past.find? (fun era => instant < era.finish) with
  | none =>
    rw [List.find?_eq_none] at hfind
    exact .inr fun e he => by simpa using hfind e he
  | some e =>
    rw [List.find?_eq_some_iff_append] at hfind
    obtain ⟨he, before, after, hpast, hbefore⟩ := hfind
    exact .inl ⟨before, e, after, hpast, fun b hb => by simpa using hbefore b hb, by simpa using he⟩

/-! ## The present rules -/

/-- The present offset of a zone with a season. -/
theorem presentOffset_of_season {z : Zone} {s : Season} (hseason : z.season = some s)
    (instant : Int) :
    z.presentOffset instant = if s.covers instant then z.standard + s.saving else z.standard := by
  rw [presentOffset, hseason]

/-- The present of a zone without a season has one offset. -/
theorem presentOffset_of_no_season {z : Zone} (hseason : z.season = none) (instant : Int) :
    z.presentOffset instant = z.standard := by
  rw [presentOffset, hseason]

/-- A change of the present offset is one of the season. -/
theorem exists_season_of_change {z : Zone} {change : Int}
    (hchange : z.presentOffset (change - 1) ≠ z.presentOffset change) :
    ∃ s, z.season = some s ∧ s.covers (change - 1) ≠ s.covers change := by
  cases hseason : z.season with
  | none =>
    rw [presentOffset_of_no_season hseason, presentOffset_of_no_season hseason] at hchange
    exact absurd rfl hchange
  | some s =>
    refine ⟨s, rfl, fun hsame => hchange ?_⟩
    rw [presentOffset_of_season hseason, presentOffset_of_season hseason, hsame]

/-- How much a zone **saves** in its season, in seconds. -/
def saving (z : Zone) : Int :=
  (z.season.map Season.saving).getD 0

/-- The present offset is the standard one, or the one with the saving. -/
theorem presentOffset_cases (z : Zone) (instant : Int) :
    z.presentOffset instant = z.standard ∨ z.presentOffset instant = z.standard + z.saving := by
  unfold presentOffset saving
  cases z.season with
  | none => exact .inl rfl
  | some s =>
    by_cases h : s.covers instant
    · exact .inr (if_pos h)
    · exact .inl (if_neg h)

/-- The present offset of a local time is that of an instant: at fold zero of the one that it names
with the saving, and at fold one of the one that it names without it. -/
theorem presentOffsetOfLocal_eq (z : Zone) (localSeconds : Int) (fold : Bool) :
    z.presentOffsetOfLocal localSeconds fold =
      z.presentOffset (localSeconds - z.standard - if fold then 0 else z.saving) := by
  unfold presentOffsetOfLocal presentOffset saving
  cases z.season <;> rfl

namespace Regular

variable {z : Zone} (hz : z.Regular)

include hz

/-- A zone saves no negative time, and at most a day. -/
theorem saving_mem : 0 ≤ z.saving ∧ z.saving ≤ 86400 := by
  unfold saving
  cases hseason : z.season with
  | none => decide
  | some s =>
    have hsaving := (hz.season_regular s hseason).saving_mem
    exact ⟨hsaving.1.le, hsaving.2⟩

/-- With the saving, too, the offset is that of a place on the earth. -/
theorem standard_add_saving_le : z.standard + z.saving ≤ 86400 := by
  unfold saving
  cases hseason : z.season with
  | none => exact (add_zero z.standard).trans_le hz.standard_near.2
  | some s => exact hz.saving_near s hseason

/-- The present offset is that of a place on the earth. -/
theorem presentOffset_mem (instant : Int) :
    -86400 ≤ z.presentOffset instant ∧ z.presentOffset instant ≤ 86400 := by
  have hstandard := hz.standard_near
  have hsaving := hz.saving_mem
  have hmost := hz.standard_add_saving_le
  rcases z.presentOffset_cases instant with h | h <;> omega

/-- **The present offset is calm** for twenty days around a change. -/
theorem presentOffset_calm {change : Int}
    (hchange : z.presentOffset (change - 1) ≠ z.presentOffset change) {instant : Int}
    (hnear : change - 20 * 86400 ≤ instant) (hnear' : instant < change + 20 * 86400) :
    z.presentOffset instant =
      if change ≤ instant then z.presentOffset change else z.presentOffset (change - 1) := by
  obtain ⟨s, hseason, hcovers⟩ := exists_season_of_change hchange
  simp only [presentOffset_of_season hseason]
  rw [(hz.season_regular s hseason).covers_calm hcovers hnear hnear']
  split <;> rfl

/-- Every offset is that of a place on the earth. -/
theorem offsetAt_mem (instant : Int) :
    -86400 ≤ z.offsetAt instant ∧ z.offsetAt instant ≤ 86400 := by
  rcases z.exists_era_or_over instant with ⟨before, e, after, hpast, hbefore, hlasts⟩ | hover
  · rw [offsetAt_of_era hpast hbefore hlasts]
    exact hz.offset_near e (by simp [hpast])
  · rw [offsetAt_of_no_era hover]
    exact hz.presentOffset_mem instant

/-! ## The end of an era -/

variable {e : Era} (he : e ∈ z.past)

include he

/-- An era that ends later ends two days later, at least. -/
theorem finish_add_le {later : Era} (hlater : later ∈ z.past) (hlt : e.finish < later.finish) :
    e.finish + 2 * 86400 ≤ later.finish := by
  obtain ⟨before, after, hpast⟩ := List.append_of_mem he
  have hspaced := hz.spaced
  rw [hpast, List.pairwise_append, List.pairwise_cons] at hspaced
  obtain ⟨-, ⟨hafter, -⟩, hbefore⟩ := hspaced
  rw [hpast, List.mem_append, List.mem_cons] at hlater
  rcases hlater with hlater | rfl | hlater
  · have := hbefore later hlater e List.mem_cons_self
    omega
  · omega
  · exact hafter later hlater

/-- If all eras are over, one that was going on two days ago is the last. -/
theorem finish_le_of_near {instant : Int} (hall : ∀ e ∈ z.past, e.finish ≤ instant)
    (hnear : instant < e.finish + 2 * 86400) : ∀ other ∈ z.past, other.finish ≤ e.finish := by
  intro other hother
  by_contra hlater
  have hlong := hz.finish_add_le he hother (by omega)
  have hended := hall other hother
  omega

/-- **Around the end of the last era** the present rules say the same for two days, or what they say
before the end is what the era does. -/
theorem presentOffset_around_last (hlast : ∀ other ∈ z.past, other.finish ≤ e.finish)
    {instant : Int} (hnear : e.finish - 2 * 86400 ≤ instant)
    (hnear' : instant ≤ e.finish + 2 * 86400) :
    z.presentOffset instant = z.presentOffset e.finish ∨
      instant < e.finish ∧ z.presentOffset instant = e.offset := by
  cases hseason : z.season with
  | none =>
    rw [presentOffset_of_no_season hseason, presentOffset_of_no_season hseason]
    exact .inl rfl
  | some s =>
    have hs := hz.season_regular s hseason
    simp only [presentOffset_of_season hseason]
    rcases hz.takesOver s hseason e he hlast with hsame | ⟨hchange, hoffset⟩
    · have hcovers := hs.covers_eq_of_ends (by omega) hsame hnear hnear'
      have hcoversEnd := hs.covers_eq_of_ends (by omega) hsame
        (show e.finish - 2 * 86400 ≤ e.finish by omega) (by omega)
      exact .inl (by rw [hcovers, hcoversEnd])
    · have hcovers := hs.covers_calm hchange
        (show e.finish - 20 * 86400 ≤ instant by omega) (by omega)
      rw [hcovers]
      split
      · exact .inl rfl
      · rw [presentOffset_of_season hseason] at hoffset
        exact .inr ⟨by omega, hoffset⟩

/-- **After an era** the offset that follows lasts two days. -/
theorem offsetAt_after {instant : Int} (hover : e.finish ≤ instant)
    (hnear : instant < e.finish + 2 * 86400) : z.offsetAt instant = z.offsetAt e.finish := by
  rcases z.exists_era_or_over e.finish with ⟨before, next, after, hpast, hbefore, hnext⟩ | hlast
  · have hlong := hz.finish_add_le he (show next ∈ z.past by simp [hpast]) hnext
    rw [offsetAt_of_era hpast hbefore hnext,
      offsetAt_of_era hpast (fun b hb => (hbefore b hb).trans hover) (by omega)]
  · rw [offsetAt_of_no_era hlast, offsetAt_of_no_era fun other h => (hlast other h).trans hover]
    exact (hz.presentOffset_around_last he hlast
      (show e.finish - 2 * 86400 ≤ instant by omega) (by omega)).resolve_right (by omega)

/-- **Before its end** an era has lasted two days. -/
theorem offsetAt_before {instant : Int} (hlasts : instant < e.finish)
    (hnear : e.finish - 2 * 86400 ≤ instant) : z.offsetAt instant = e.offset := by
  obtain ⟨before, after, hpast⟩ := List.append_of_mem he
  refine offsetAt_of_era hpast (fun b hb => ?_) hlasts
  have hspaced := hz.spaced
  rw [hpast, List.pairwise_append] at hspaced
  have := hspaced.2.2 b hb e List.mem_cons_self
  omega

end Regular

end TimeWindow.Zone
