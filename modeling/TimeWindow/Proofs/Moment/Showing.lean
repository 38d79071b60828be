import TimeWindow.Proofs.Moment.RoundTrip
import TimeWindow.Proofs.Zone.LocalTimes

set_option autoImplicit false

/-!
# Showing the instant of a moment

A moment on the clock of a zone names an instant, and the clock shows that instant as a moment. If
the local time of a moment is shown at all, and its fold is set for nothing but a second showing,
this is the same moment. If the local time is skipped, it is the moment moved over the gap: forward
at fold zero and backward at fold one.

## Main results

* `TimeWindow.Moment.exists_microseconds_iff` — which counts are those of date-times.
* `TimeWindow.Moment.ofNanoseconds_toInstant` — the instant of any moment of a zone is shown as the
  moment, or as the moment moved over the gap.
-/

namespace TimeWindow.Moment

open Outcome

/-! ## The calendar -/

/-- **A count is that of a date-time** exactly if its second lies in the years 1 to 9999. -/
theorem exists_microseconds_iff {count : Int} :
    (∃ d : Calendar.DateTime, d.microseconds = count) ↔
      Zone.yearBegin 1 ≤ count / 1000000 ∧ count / 1000000 < Zone.yearBegin 10000 := by
  have hday : count / Calendar.DateTime.dayMicroseconds = count / 1000000 / 86400 := by
    unfold Calendar.DateTime.dayMicroseconds
    omega
  simp only [← Calendar.DateTime.ofMicroseconds?_eq_ok_iff]
  rw [Calendar.DateTime.exists_ofMicroseconds?_iff, hday, ← not_le, Zone.yearBegin_le_iff,
    Zone.yearBegin_le_iff]
  omega

/-- An instant in nanoseconds lies in the years 1 to 9999 exactly if it is a date-time, to the
microsecond. -/
theorem yearAt_mem_iff {n : Int} :
    (1 ≤ Timestamp.yearAt n ∧ Timestamp.yearAt n ≤ 9999) ↔
      ∃ d : Calendar.DateTime, d.microseconds = n / 1000 := by
  have hday : n / (86400 * 10 ^ 9) = n / 1000 / 1000000 / 86400 := by omega
  rw [exists_microseconds_iff, Timestamp.yearAt, hday, ← not_le, Zone.yearBegin_le_iff,
    Zone.yearBegin_le_iff]
  omega

/-- The local time of a moment lies in the years 1 to 9999. -/
theorem localSeconds_mem (m : Moment) :
    Zone.yearBegin 1 ≤ m.localSeconds ∧ m.localSeconds < Zone.yearBegin 10000 :=
  exists_microseconds_iff.1 ⟨m.dateTime, rfl⟩

/-! ## Moments on the clock of a zone -/

section Zone

variable {key : Text} {z : Zone} {m : Moment}

/-- The **instant of a moment** in a zone, in microseconds: the offset of its local time is taken
off. -/
def zoneMicroseconds (m : Moment) (z : Zone) : Int :=
  m.dateTime.microseconds - z.offsetOfLocal m.localSeconds m.fold * 1000000

/-- The second of the instant of a moment in a zone. -/
theorem zoneMicroseconds_div :
    m.zoneMicroseconds z / 1000000 = m.localSeconds - z.offsetOfLocal m.localSeconds m.fold := by
  unfold zoneMicroseconds
  rw [Int.sub_mul_ediv_right _ _ (by decide)]
  rfl

/-- A moment in a zone names its instant. -/
theorem toInstant_of_zone (hplace : m.place = .zone z) (edge : Edge) :
    (Value.moment m).toInstant edge = .ok (m.zoneMicroseconds z * 1000) := by
  rw [Value.toInstant, nanoseconds?, microseconds?, offset?, hplace]
  rfl

/-- **A shown moment is shown again**: the offset of its local time is the offset of an instant at
which the clock shows it, so this is the instant of the moment. -/
theorem ofMicroseconds_of_shows (hkey : Zone.find? key = .ok z) (hplace : m.place = .zone z)
    (hcalendar : ∃ d : Calendar.DateTime, d.microseconds = m.zoneMicroseconds z)
    (hshows : z.Shows m.localSeconds) (hfold : m.fold = true → z.ShowsTwice m.localSeconds) :
    ofMicroseconds (m.zoneMicroseconds z) key = .ok m := by
  have hz : z.Regular := Zone.regular_of_find? hkey
  obtain ⟨instant, hclock, hinstantFold⟩ := hz.exists_clock_eq hshows hfold
  have hoffset : z.offsetOfLocal m.localSeconds m.fold = z.offsetAt instant := by
    rw [← hclock, ← hinstantFold]
    exact hz.offsetOfLocal_offsetAt instant
  have hsecond : m.zoneMicroseconds z / 1000000 = instant := by
    rw [zoneMicroseconds_div, hoffset, ← hclock, Zone.clock]
    omega
  rw [ofMicroseconds_eq_ok_iff, hsecond]
  refine ⟨hcalendar, z, hkey, hplace, hinstantFold.symm, ?_⟩
  rw [zoneMicroseconds, hoffset]
  omega

/-- **A skipped moment is moved over the gap**: forward at fold zero, and backward at fold one. -/
theorem exists_ofMicroseconds_of_skipsAt (hkey : Zone.find? key = .ok z)
    (hcalendar : ∃ d : Calendar.DateTime, d.microseconds = m.zoneMicroseconds z)
    {change : Int} (hskips : z.SkipsAt change m.localSeconds) :
    ∃ m', ofMicroseconds (m.zoneMicroseconds z) key = .ok m' ∧ m'.place = .zone z ∧
      m'.dateTime.microseconds = m.dateTime.microseconds +
        (if m.fold then -z.gapLength change else z.gapLength change) * 1000000 := by
  have hz : z.Regular := Zone.regular_of_find? hkey
  have hclock := hz.clock_sub_offsetOfLocal hskips m.fold
  have hmem := hz.clock_inside_calendar hskips m.localSeconds_mem m.fold
  rw [← zoneMicroseconds_div] at hclock hmem
  let shown := m.zoneMicroseconds z + z.offsetAt (m.zoneMicroseconds z / 1000000) * 1000000
  have hsecond : shown / 1000000 = z.clock (m.zoneMicroseconds z / 1000000) :=
    Int.add_mul_ediv_right _ _ (by decide)
  obtain ⟨d, hd⟩ : ∃ d : Calendar.DateTime, d.microseconds = shown := by
    rw [exists_microseconds_iff, hsecond]
    exact hmem
  refine ⟨⟨d, .zone z, z.foldAt (m.zoneMicroseconds z / 1000000)⟩,
    ofMicroseconds_eq_ok_iff.2 ⟨hcalendar, z, hkey, rfl, rfl, hd⟩, rfl, ?_⟩
  -- On the clock the time of day goes on by whole seconds, from the local time to the shown one.
  rw [Zone.clock, zoneMicroseconds_div] at hclock
  simp only [hd, shown, zoneMicroseconds_div]
  unfold zoneMicroseconds
  omega

end Zone

/-! ## From a moment to its instant and back -/

/-- **The instant of a moment is shown as the moment**, or as the moment moved over a gap. Every
moment on the clock of a zone has an instant. If that lies in the years 1 to 9999, the clock shows
it as the moment itself, with its date, time and fold, if the local time is shown and the fold is
set only if it is shown twice. A local time that is not shown is skipped at a change; then the clock
shows the moment moved forward by the length of the gap at fold zero, and backward at fold one. -/
theorem ofNanoseconds_toInstant {key : Text} {z : Zone} {m : Moment}
    (hkey : Zone.find? key = .ok z) (hplace : m.place = .zone z) :
    (¬z.Shows m.localSeconds ↔ ∃ change, z.SkipsAt change m.localSeconds) ∧
      ∃ n, (∀ edge, (Value.moment m).toInstant edge = .ok n) ∧
        (1 ≤ Timestamp.yearAt n ∧ Timestamp.yearAt n ≤ 9999 →
          (z.Shows m.localSeconds → (m.fold = true → z.ShowsTwice m.localSeconds) →
            ofNanoseconds n key = .ok m) ∧
          ∀ change, z.SkipsAt change m.localSeconds →
            ∃ m', ofNanoseconds n key = .ok m' ∧ m'.place = m.place ∧
              m'.dateTime.microseconds = m.dateTime.microseconds +
                (if m.fold then -z.gapLength change else z.gapLength change) * 1000000) := by
  refine ⟨(Zone.regular_of_find? hkey).not_shows_iff, m.zoneMicroseconds z * 1000,
    toInstant_of_zone hplace, fun hyear => ?_⟩
  have hmicro : m.zoneMicroseconds z * 1000 / 1000 = m.zoneMicroseconds z :=
    Int.mul_ediv_cancel _ (by decide)
  rw [yearAt_mem_iff, hmicro] at hyear
  rw [ofNanoseconds, hmicro, hplace]
  exact ⟨ofMicroseconds_of_shows hkey hplace hyear,
    fun change hskips => exists_ofMicroseconds_of_skipsAt hkey hyear hskips⟩

/-- Half past one in London: on the last Sunday of March 2023 it is skipped and shown as half past
two, and on the last Sunday of October it is shown twice, the second time as it is. -/
theorem ofNanoseconds_toInstant_london :
    (∃ skipped shown : Moment,
      (∀ edge, (Value.moment skipped).toInstant edge = .ok 1679794200000000000) ∧
        ofNanoseconds 1679794200000000000 "Europe/London" = .ok shown ∧
          shown.dateTime.microseconds = skipped.dateTime.microseconds + 3600000000) ∧
      ∃ repeated : Moment, repeated.fold = true ∧
        (∀ edge, (Value.moment repeated).toInstant edge = .ok 1698543000000000000) ∧
          ofNanoseconds 1698543000000000000 "Europe/London" = .ok repeated := by
  let time : Calendar.TimeOfDay := ⟨1, 30, 0, 0, by decide, by decide, by decide, by decide⟩
  let march : Calendar.Date := ⟨2023, 3, 26, by decide, by decide, by decide⟩
  let october : Calendar.Date := ⟨2023, 10, 29, by decide, by decide, by decide⟩
  let skipped : Moment := ⟨⟨march, time⟩, .zone Zone.london, false⟩
  let repeated : Moment := ⟨⟨october, time⟩, .zone Zone.london, true⟩
  have hkey : Zone.find? "Europe/London" = .ok Zone.london := by rfl
  constructor
  · obtain ⟨-, n, hn, hshown⟩ := ofNanoseconds_toInstant (m := skipped) hkey rfl
    have hinstant : Except.ok (skipped.zoneMicroseconds Zone.london * 1000) = .ok n :=
      (toInstant_of_zone rfl .start).symm.trans (hn .start)
    have hcount : skipped.zoneMicroseconds Zone.london * 1000 = 1679794200000000000 := by
      decide +kernel
    obtain rfl : n = 1679794200000000000 := (Except.ok.inj hinstant).symm.trans hcount
    obtain ⟨shown, hok, -, hmoved⟩ :=
      (hshown (by decide +kernel)).2 1679792400 (by unfold Zone.SkipsAt; decide +kernel)
    have hgap : Zone.london.gapLength 1679792400 = 3600 := by decide +kernel
    exact ⟨skipped, shown, hn, hok, by simpa [skipped, hgap] using hmoved⟩
  · obtain ⟨-, n, hn, hshown⟩ := ofNanoseconds_toInstant (m := repeated) hkey rfl
    have hinstant : Except.ok (repeated.zoneMicroseconds Zone.london * 1000) = .ok n :=
      (toInstant_of_zone rfl .start).symm.trans (hn .start)
    have hcount : repeated.zoneMicroseconds Zone.london * 1000 = 1698543000000000000 := by
      decide +kernel
    obtain rfl : n = 1698543000000000000 := (Except.ok.inj hinstant).symm.trans hcount
    have hfirst : Zone.london.clock 1698539400 = repeated.localSeconds := by decide +kernel
    have hsecond : Zone.london.clock 1698543000 = repeated.localSeconds := by decide +kernel
    exact ⟨repeated, rfl, hn, (hshown (by decide +kernel)).1 ⟨_, hfirst⟩
      fun _ => ⟨_, _, by decide, hfirst, hsecond⟩⟩

end TimeWindow.Moment
