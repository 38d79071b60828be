import TimeWindow.Interval.Basic
import TimeWindow.Proofs.Timestamp.Writing
import TimeWindow.Proofs.Zone.LocalTimes

set_option autoImplicit false

/-!
# Moments and their instants

The clock of a zone shows an instant as a moment. The moment keeps the date and time, the zone and
the fold, not the instant; but the instant can be read off it again, to the microsecond, because the
offset of what is shown is the offset of the instant.

## Main results

* `TimeWindow.Moment.ofMicroseconds_eq_ok_iff` — the moment at which a zone shows an instant.
* `TimeWindow.Moment.microseconds?_ofMicroseconds` — a shown microsecond is read off its moment.
* `TimeWindow.Moment.shown_instants_between` — moments on the clocks of any zones are the instants
  that they show, down to the microsecond, and so are the edges of an interval between them.
-/

namespace TimeWindow.Moment

open Outcome

/-- **The moment at which a zone shows an instant** has the zone, the local time of the instant and
its fold; the instant has to be a date in universal time. -/
theorem ofMicroseconds_eq_ok_iff {n : Int} {key : Text} {m : Moment} :
    ofMicroseconds n key = .ok m ↔
      (∃ d : Calendar.DateTime, d.microseconds = n) ∧
        ∃ zone, Zone.find? key = .ok zone ∧ m.place = .zone zone ∧
          m.fold = zone.foldAt (n / 1000000) ∧
          m.dateTime.microseconds = n + zone.offsetAt (n / 1000000) * 1000000 := by
  simp only [ofMicroseconds, bind_eq_ok_iff, Timestamp.dateTimeAt?_eq_ok_iff, mapError_eq_ok_iff,
    Calendar.DateTime.ofMicroseconds?_eq_ok_iff, pure_eq_ok_iff, exists_and_right]
  refine and_congr_right fun _ => exists_congr fun zone => and_congr_right fun _ => ?_
  constructor
  · rintro ⟨shown, hshown, rfl⟩
    exact ⟨rfl, rfl, hshown⟩
  · rintro ⟨hplace, hfold, hshown⟩
    refine ⟨m.dateTime, hshown, ?_⟩
    rw [← hplace, ← hfold]

/-- **A shown microsecond** is read off its moment. -/
theorem microseconds?_ofMicroseconds {n : Int} {key : Text} {m : Moment}
    (h : ofMicroseconds n key = .ok m) : m.microseconds? = some n := by
  obtain ⟨-, zone, hzone, hplace, hfold, hlocal⟩ := ofMicroseconds_eq_ok_iff.1 h
  have hregular : zone.Regular := Zone.regular_of_find? hzone
  have hseconds : (n + zone.offsetAt (n / 1000000) * 1000000) / 1000000 =
      n / 1000000 + zone.offsetAt (n / 1000000) := by
    rw [Int.add_mul_ediv_right _ _ (by decide)]
  simp only [microseconds?, offset?, localSeconds, hplace, hfold, hlocal, hseconds,
    hregular.offsetOfLocal_offsetAt, Option.map_some]
  congr 1
  omega

/-- **A shown instant** is read off its moment, without its part of a microsecond. -/
theorem toInstant_ofNanoseconds {n : Int} {key : Text} {m : Moment}
    (h : ofNanoseconds n key = .ok m) (edge : Edge) :
    (Value.moment m).toInstant edge = .ok (n - n % 1000) := by
  have hmicro : m.microseconds? = some (n / 1000) := microseconds?_ofMicroseconds h
  have hnano : m.nanoseconds? = some (n - n % 1000) := by
    rw [nanoseconds?, hmicro, Option.map_some]
    congr 1
    omega
  rw [Value.toInstant, hnano]

/-- **Shown instants are kept**: an instant can be read off the moment at which any zone shows it,
and the interval between two such moments begins and ends at their instants, whatever the two zones
are. Parts of a microsecond are not kept. -/
theorem shown_instants_between {s : Int} {key : Text} {m : Moment}
    (hs : ofNanoseconds s key = .ok m) :
    (∀ edge, (Value.moment m).toInstant edge = .ok (s - s % 1000)) ∧
      ∀ (kind : Kind) (e : Int) (endKey : Text) (m' : Moment), ofNanoseconds e endKey = .ok m' →
        ∃ i, Interval.between kind (.moment m) (.moment m') = .ok i ∧ i.kind = kind ∧
          i.start = .int (s - s % 1000) ∧ i.finish = .ok (.int (e - e % 1000)) := by
  refine ⟨toInstant_ofNanoseconds hs, fun kind e endKey m' he => ?_⟩
  have hbetween : Interval.between kind (.moment m) (.moment m') =
      .ok (.ofKind kind (.int (s - s % 1000)) (.int (e - e % 1000 - (s - s % 1000)))) := by
    rw [Interval.between, toInstant_ofNanoseconds hs, toInstant_ofNanoseconds he]
    rfl
  have hend : s - s % 1000 + (e - e % 1000 - (s - s % 1000)) = e - e % 1000 := by omega
  refine ⟨_, hbetween, ?_⟩
  cases kind <;> exact ⟨rfl, rfl, by rw [Interval.ofKind, Interval.finish_int, hend]⟩

/-- The last Sunday of October 2023 in London: the clock shows half past one twice, an hour apart.
The two moments differ by their fold only, and there is an hour between them. -/
theorem shown_twice_between :
    ∃ m m', ofNanoseconds 1698539400000000999 "Europe/London" = .ok m ∧
      ofNanoseconds 1698543000000000001 "Europe/London" = .ok m' ∧ { m with fold := true } = m' ∧
        ∃ i, Interval.between .plain (.moment m) (.moment m') = .ok i ∧
          i.start = .int 1698539400000000000 ∧
          i.finish = .ok (.int 1698543000000000000) := by
  let date : Calendar.Date := ⟨2023, 10, 29, by decide, by decide, by decide⟩
  let time : Calendar.TimeOfDay := ⟨1, 30, 0, 0, by decide, by decide, by decide, by decide⟩
  have hfirst : ofNanoseconds 1698539400000000999 "Europe/London" =
      .ok ⟨⟨date, time⟩, .zone Zone.london, false⟩ := by rfl
  have hsecond : ofNanoseconds 1698543000000000001 "Europe/London" =
      .ok ⟨⟨date, time⟩, .zone Zone.london, true⟩ := by rfl
  obtain ⟨i, hi, -, hstart, hfinish⟩ :=
    (shown_instants_between hfirst).2 .plain _ _ _ hsecond
  exact ⟨_, _, hfirst, hsecond, rfl, i, hi, hstart, hfinish⟩

end TimeWindow.Moment
