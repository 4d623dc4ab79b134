import InsertScript.Numeral.Grouped

/-!
# Dates, times and durations

The proleptic Gregorian calendar, the time of day down to microseconds, offsets from universal time
in whole seconds, and durations.

* `isoDate`, `isoClock` and `isoOffset` write the standard forms; microseconds, the offset and the
  seconds of the offset are written only if there is something to write, so the forms lose nothing.
* A duration is days, seconds and microseconds, the last two within their units and not negative;
  only the days have a sign.
-/

namespace InsertScript

/-- A day of the calendar. -/
structure Date where
  year : Nat
  month : Nat
  day : Nat
deriving DecidableEq, Repr, Inhabited

/-- A time of day. -/
structure Clock where
  hour : Nat := 0
  minute : Nat := 0
  second : Nat := 0
  microsecond : Nat := 0
deriving DecidableEq, Repr, Inhabited

namespace Date

/-- Does the year have a twenty-ninth of February? -/
def isLeap (year : Nat) : Bool := year % 4 == 0 && (year % 100 != 0 || year % 400 == 0)

/-- The number of days of a month. -/
def daysInMonth (year month : Nat) : Nat :=
  if month = 2 then (if isLeap year then 29 else 28)
  else if month = 4 ∨ month = 6 ∨ month = 9 ∨ month = 11 then 30
  else 31

/-- The position of the day in its year, from one. -/
def dayOfYear (d : Date) : Nat :=
  ((List.range (d.month - 1)).map fun m => daysInMonth d.year (m + 1)).foldr (· + ·) 0 + d.day

/-- The number of days before the first of January of a year, counted from the year one. -/
def daysBeforeYear (year : Nat) : Nat :=
  let past := year - 1
  365 * past + past / 4 - past / 100 + past / 400

/-- The number of the day, the first of January of the year one being day one. -/
def ordinal (d : Date) : Nat := daysBeforeYear d.year + d.dayOfYear

/-- The day of the week, from zero for Monday. -/
def weekday (d : Date) : Nat := (d.ordinal + 6) % 7

/-- The number of the week in the year, where weeks begin with a day of the week. The days in front
of the first such day are in week zero. -/
def weekFrom (first : Nat) (d : Date) : Nat := (d.dayOfYear + 6 - (d.weekday + 7 - first) % 7) / 7

/-- The number of days of a year. -/
def daysInYear (year : Nat) : Nat := if isLeap year then 366 else 365

/-- The year that a week is counted in, and its number in that year. Weeks begin with Monday, and
the year is the one of their Thursday. -/
def isoWeek (d : Date) : Nat × Nat :=
  if d.dayOfYear + 3 ≤ d.weekday then
    (d.year - 1, (daysInYear (d.year - 1) + d.dayOfYear + 2 - d.weekday) / 7 + 1)
  else if daysInYear d.year + d.weekday < d.dayOfYear + 3 then (d.year + 1, 1)
  else (d.year, (d.dayOfYear + 2 - d.weekday) / 7 + 1)

/-- The standard form of a date. -/
def iso (d : Date) : List Char :=
  Numeral.zeroPadded 4 d.year ++ '-' :: Numeral.zeroPadded 2 d.month ++
    '-' :: Numeral.zeroPadded 2 d.day

end Date

namespace Clock

/-- The number of microseconds since midnight. -/
def microseconds (t : Clock) : Nat :=
  ((t.hour * 60 + t.minute) * 60 + t.second) * 1000000 + t.microsecond

/-- Are two times of day the same, each with its offset from universal time? The offsets are
subtracted without going to another day, and a time with an offset differs from one without. -/
def same (a : Clock) (x : Option Int) (b : Clock) (y : Option Int) : Bool :=
  match x, y with
  | some x, some y => a.microseconds - x * 1000000 == (b.microseconds - y * 1000000 : Int)
  | none, none => a == b
  | _, _ => false

/-- Hours, minutes and seconds. -/
def isoSeconds (t : Clock) : List Char :=
  Numeral.zeroPadded 2 t.hour ++ ':' :: Numeral.zeroPadded 2 t.minute ++
    ':' :: Numeral.zeroPadded 2 t.second

/-- A fraction of a second; nothing for none. -/
def fraction (microsecond : Nat) : List Char :=
  if microsecond = 0 then [] else '.' :: Numeral.zeroPadded 6 microsecond

/-- The standard form of a time of day. -/
def iso (t : Clock) : List Char := t.isoSeconds ++ fraction t.microsecond

end Clock

/-- An offset from universal time in seconds; `between` stands between its parts. -/
def offsetText (between : List Char) : Option Int → List Char
  | none => []
  | some offset =>
      let size := offset.natAbs
      let seconds := size % 60
      (if offset < 0 then '-' else '+') :: Numeral.zeroPadded 2 (size / 3600) ++ between ++
        Numeral.zeroPadded 2 (size / 60 % 60) ++
        (if seconds = 0 then [] else between ++ Numeral.zeroPadded 2 seconds)

/-- The standard form of an offset; nothing for a local time. -/
def isoOffset (offset : Option Int) : List Char := offsetText [':'] offset

/-! ### Durations -/

/-- A duration, in normal form. -/
structure Duration where
  days : Int
  seconds : Nat
  microseconds : Nat
deriving DecidableEq, Repr

namespace Duration

/-- The normal form of a duration in mixed units. -/
def ofParts (days seconds microseconds : Int) : Duration :=
  let seconds := seconds + microseconds.fdiv 1000000
  { days := days + seconds.fdiv 86400
    seconds := (seconds.fmod 86400).toNat
    microseconds := (microseconds.fmod 1000000).toNat }

/-- The largest number of days, in either direction. -/
def dayLimit : Int := 999999999

/-- A duration within the limit; the error is the number of days if there are too many. -/
def check (d : Duration) : Except Int Duration :=
  if d.days < -dayLimit ∨ dayLimit < d.days then .error d.days else .ok d

/-- A number of minutes as a duration; the error is the number of days if there are too many. -/
def ofMinutes (minutes : Int) : Except Int Duration := check (ofParts 0 (minutes * 60) 0)

/-- The whole duration in microseconds. -/
def total (d : Duration) : Int := (d.days * 86400 + d.seconds) * 1000000 + d.microseconds

/-- Is the duration zero? -/
def isZero (d : Duration) : Bool := d.days == 0 && d.seconds == 0 && d.microseconds == 0

/-- A duration in quoted form, the parts that are not zero by name. -/
def quoted (d : Duration) : String :=
  let parts :=
    (if d.days = 0 then [] else [s!"days={d.days}"]) ++
    (if d.seconds = 0 then [] else [s!"seconds={d.seconds}"]) ++
    (if d.microseconds = 0 then [] else [s!"microseconds={d.microseconds}"])
  "datetime.timedelta(" ++ (if parts.isEmpty then "0" else ", ".intercalate parts) ++ ")"

/-- The text of a duration: the days, if there are any, and hours, minutes and seconds. -/
def text (d : Duration) : String :=
  let days :=
    if d.days = 0 then "" else s!"{d.days} day" ++ (if d.days.natAbs = 1 then "" else "s") ++ ", "
  let clock :=
    Nat.toDigits 10 (d.seconds / 3600) ++ ':' :: Numeral.zeroPadded 2 (d.seconds / 60 % 60) ++
      ':' :: Numeral.zeroPadded 2 (d.seconds % 60) ++ Clock.fraction d.microseconds
  days ++ String.ofList clock

end Duration

/-! ### Moments -/

/-- A date with a time of day, and its offset from universal time if it is not local. -/
structure Moment where
  date : Date
  clock : Clock := {}
  offset : Option Int := none
  /-- The name of the zone, if it has one of its own. -/
  zoneName? : Option String := none
deriving DecidableEq, Repr, Inhabited

namespace Moment

/-- The standard form, a blank between date and time. -/
def iso (m : Moment) : List Char := m.date.iso ++ ' ' :: m.clock.iso ++ isoOffset m.offset

/-- The microseconds from the beginning of the calendar to the moment as its clock shows it. -/
def instant (m : Moment) : Int := (m.date.ordinal * 86400000000 + m.clock.microseconds : Nat)

/-- The instant at which the calendar begins. -/
def firstInstant : Int := (Date.ordinal { year := 1, month := 1, day := 1 } * 86400000000 : Nat)

/-- The instant after the last one of the calendar. -/
def endInstant : Int := (Date.ordinal { year := 10000, month := 1, day := 1 } * 86400000000 : Nat)

/-- The seconds from the beginning of the year 1970 to the moment as its clock shows it. -/
def epochSeconds (m : Moment) : Int :=
  (m.instant - (Date.ordinal { year := 1970, month := 1, day := 1 } * 86400000000 : Nat)) / 1000000

/-- The name of the zone. A zone without a name of its own is named after its offset. -/
def zoneName (m : Moment) : List Char :=
  match m.zoneName?, m.offset with
  | some name, _ => name.toList
  | none, none => []
  | none, some offset => "UTC".toList ++ if offset = 0 then [] else isoOffset offset

/-- Are two moments the same time, whatever their zones are called? A moment with an offset differs
from one without. -/
def same (a b : Moment) : Bool :=
  match a.offset, b.offset with
  | some x, some y => a.instant - x * 1000000 == b.instant - y * 1000000
  | none, none => a.date == b.date && a.clock == b.clock
  | _, _ => false

end Moment

end InsertScript
