import TimeWindow.Calendar.DayNumber

set_option autoImplicit false

/-!
# Zones

A zone keeps one offset from UTC, or two: a standard offset and, in a season of each year, the
standard offset plus a saving. The season is given by two rules, each of which picks an instant of
a year. Before its present rules a zone may have kept other offsets. An offset belongs to an
instant; a local time has the offset of one of two instants, and the fold says which: at fold zero
the clock is read as it ran before a change, at fold one as it runs after it.

## Main definitions

* `TimeWindow.Zone.Rule`, `TimeWindow.Zone.Season` — when saving begins and ends.
* `TimeWindow.Zone.Era` — an offset that was kept before the present rules.
* `TimeWindow.Zone` — a key with its offsets.
* `TimeWindow.Zone.offsetAt` — the offset at an instant.
* `TimeWindow.Zone.offsetOfLocal` — the offset of a local time with a fold.
* `TimeWindow.Zone.foldAt` — whether the local time of an instant is shown a second time.
-/

namespace TimeWindow

namespace Zone

/-! ## Seasons -/

/-- Which Sunday of a month. -/
inductive Sunday where
  | first
  | second
  | last
deriving DecidableEq

/-- A **rule** picks an instant of each year: a Sunday of a month, and the seconds of UTC from the
midnight that begins it, which can be negative. -/
structure Rule where
  month : Nat
  sunday : Sunday
  seconds : Int
deriving DecidableEq

/-- The day that a rule picks in a year. -/
def Rule.day (r : Rule) (year : Int) : Int :=
  match r.sunday with
  | .first => Calendar.sundayFrom (Calendar.dayNumber year r.month 1)
  | .second => Calendar.sundayFrom (Calendar.dayNumber year r.month 8)
  | .last =>
    Calendar.sundayUpTo (Calendar.dayNumber year r.month (Calendar.daysInMonth year r.month))

/-- The instant that a rule picks in a year, in seconds since the epoch. -/
def Rule.instant (r : Rule) (year : Int) : Int :=
  r.day year * 86400 + r.seconds

/-- A **season** of saving: the saving in seconds, and the rules for its begin and its end. A
season that begins late in a year ends in the next one. -/
structure Season where
  saving : Int
  begins : Rule
  ends : Rule
deriving DecidableEq

/-- The end of the season that begins in a year. -/
def Season.finish (s : Season) (year : Int) : Int :=
  s.ends.instant (if s.begins.month < s.ends.month then year else year + 1)

/-- An instant lies in the season that begins in a year. -/
def Season.coversIn (s : Season) (year instant : Int) : Bool :=
  s.begins.instant year ≤ instant && instant < s.finish year

/-- An instant lies in a season, that of its own year or that of the year before. -/
def Season.covers (s : Season) (instant : Int) : Bool :=
  let year := Calendar.yearOfDay (instant / 86400)
  s.coversIn year instant || s.coversIn (year - 1) instant

/-! ## Eras -/

/-- An **era**: an offset in seconds that was kept up to an instant. -/
structure Era where
  offset : Int
  finish : Int
deriving DecidableEq

end Zone

/-! ## Zones -/

/-- A **zone**: a key, the standard offset in seconds east of UTC, the season of saving, and the
eras before, the earliest first. -/
structure Zone where
  key : String
  standard : Int
  season : Option Zone.Season
  past : List Zone.Era
deriving DecidableEq

namespace Zone

/-- The offset at an instant by the present rules. -/
def presentOffset (z : Zone) (instant : Int) : Int :=
  match z.season with
  | none => z.standard
  | some s => if s.covers instant then z.standard + s.saving else z.standard

/-- The **offset at an instant**, in seconds: that of the first era that ends later, or else the
present one. -/
def offsetAt (z : Zone) (instant : Int) : Int :=
  match z.past.find? fun era => instant < era.finish with
  | some era => era.offset
  | none => z.presentOffset instant

/-- The local time at which an era is over: at fold zero the later of the times that the clock shows
before and after the change, at fold one the earlier. -/
def localFinish (z : Zone) (fold : Bool) (era : Era) : Int :=
  let next := z.offsetAt era.finish
  era.finish + (if fold then min era.offset next else max era.offset next)

/-- The offset of a local time by the present rules: at fold zero the local time is read with the
saving, at fold one without it, and the instant found decides whether saving was right. -/
def presentOffsetOfLocal (z : Zone) (localSeconds : Int) (fold : Bool) : Int :=
  match z.season with
  | none => z.standard
  | some s =>
    let instant := localSeconds - z.standard - (if fold then 0 else s.saving)
    if s.covers instant then z.standard + s.saving else z.standard

/-- The **offset of a local time**, in seconds. -/
def offsetOfLocal (z : Zone) (localSeconds : Int) (fold : Bool) : Int :=
  match z.past.find? fun era => localSeconds < z.localFinish fold era with
  | some era => era.offset
  | none => z.presentOffsetOfLocal localSeconds fold

/-- The local time of an instant was shown before in an era: the era has ended, by less than the
clock was set back. -/
def Era.showedBefore (era : Era) (z : Zone) (instant : Int) : Bool :=
  era.finish ≤ instant && instant - era.finish < era.offset - z.offsetAt instant

/-- The local time of an instant is shown **a second time**: an era has ended, by less than the clock
was set back, or the clock was ahead by the saving as long ago as the saving is. -/
def foldAt (z : Zone) (instant : Int) : Bool :=
  (z.past.any fun era => era.showedBefore z instant) ||
  match z.season with
  | none => false
  | some s => z.offsetAt (instant - s.saving) = z.offsetAt instant + s.saving

/-! ## The known zones

A table of zones is data of the system that a program runs on. Eight of its zones are known here.
Those with a season are *idealised*: their present rules stand for all years, and no eras are kept.
The rules are in force since 2007 in North America, since 1996 in London and since 2008 on Lord Howe
Island; what the clocks did before is not kept. The eras of the zones without a season are those of
the table. -/

/-- North American zones: saving from the second Sunday of March to the first Sunday of November,
at two o'clock local time. The rules are those since 2007, and stand for all years. -/
def northAmerican (key : String) (standard : Int) : Zone where
  key := key
  standard := standard
  season := some
    { saving := 3600
      begins := ⟨3, .second, 7200 - standard⟩
      ends := ⟨11, .first, 7200 - (standard + 3600)⟩ }
  past := []

/-- A zone that always kept one offset. -/
def steady (key : String) (standard : Int) : Zone :=
  ⟨key, standard, none, []⟩

/-- Universal time. -/
def utc : Zone := steady "UTC" 0

/-- London: saving from the last Sunday of March to the last Sunday of October, at one o'clock
universal time. The rules are those since 1996, and stand for all years. -/
def london : Zone where
  key := "Europe/London"
  standard := 0
  season := some
    { saving := 3600
      begins := ⟨3, .last, 3600⟩
      ends := ⟨10, .last, 3600⟩ }
  past := []

/-- Lord Howe Island: half an hour of saving from the first Sunday of October to the first Sunday
of April, at two o'clock local time. The rules are those since 2008, and stand for all years. -/
def lordHowe : Zone where
  key := "Australia/Lord_Howe"
  standard := 37800
  season := some
    { saving := 1800
      begins := ⟨10, .first, 7200 - 37800⟩
      ends := ⟨4, .first, 7200 - 39600⟩ }
  past := []

/-- Kolkata: local times up to 1906, and an hour of saving in two seasons of 1941 to 1945. -/
def kolkata : Zone where
  key := "Asia/Kolkata"
  standard := 19800
  season := none
  past := [⟨21208, -3645237208⟩, ⟨21200, -3155694800⟩, ⟨19270, -2019705670⟩,
    ⟨19800, -891581400⟩, ⟨23400, -872058600⟩, ⟨19800, -862637400⟩, ⟨23400, -764145000⟩]

/-- Kathmandu: local time up to 1920, and a quarter of an hour less than now up to 1986. -/
def kathmandu : Zone where
  key := "Asia/Kathmandu"
  standard := 20700
  season := none
  past := [⟨20476, -1577943676⟩, ⟨19800, 504901800⟩]

/-- The **known zones**. A key of any other zone is answered as unknown. -/
def known : List Zone :=
  [utc, steady "Etc/GMT+5" (-18000), kolkata, kathmandu,
    northAmerican "US/Pacific" (-28800), northAmerican "America/New_York" (-18000), london,
    lordHowe]

end Zone

end TimeWindow
