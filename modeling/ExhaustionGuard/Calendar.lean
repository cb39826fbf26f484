/-!
# Calendar

Instants, the zones they are shown in, and the date and time of day that a zone shows. Dates are
those of the Gregorian calendar, carried on before its introduction and past the year zero.
-/

namespace ExhaustionGuard.Calendar

structure Date where
  year : Int
  /-- From 1 for January to 12 for December. -/
  month : Nat
  day : Nat
  deriving DecidableEq, Repr

/-- A number of seconds since the start of 1970 in Greenwich. A leap second is counted as the
second before it, with a thousand million nanoseconds or more. -/
structure Instant where
  seconds : Int
  nanoseconds : Nat
  deriving DecidableEq, Repr

/-- How local time relates to Greenwich: not at all, or by so many seconds to the east. -/
inductive Zone where
  | utc
  | fixed (seconds : Int)
  deriving DecidableEq, Repr

/-- A date with a time of day, as a zone shows it. -/
structure LocalTime where
  date : Date
  hour : Nat
  minute : Nat
  second : Nat
  nanosecond : Nat
  zone : Zone
  deriving DecidableEq, Repr

/-- The day on which a year of 365.2425 days starts, when years start in March. Days are counted
from the first of March of the year zero. -/
def marchDay (year : Int) : Int :=
  365 * year + year / 4 - year / 100 + year / 400

namespace Date

/-- Days from the first of January 1970. -/
def dayNumber (date : Date) : Int :=
  let year := if date.month ≤ 2 then date.year - 1 else date.year
  let month := (date.month + 9) % 12
  marchDay year + ((153 * month + 2) / 5 : Nat) + (date.day : Int) - 1 - 719468

/-- The date so many days after the first of January 1970. -/
def ofDayNumber (number : Int) : Date :=
  let days := number + 719468
  let era := days / 146097
  let ofEra := (days % 146097).toNat
  let yearOfEra := (ofEra - ofEra / 1460 + ofEra / 36524 - ofEra / 146096) / 365
  let ofYear := ofEra - (365 * yearOfEra + yearOfEra / 4 - yearOfEra / 100)
  let month := (5 * ofYear + 2) / 153
  let day := ofYear - (153 * month + 2) / 5 + 1
  let year := era * 400 + yearOfEra
  if month < 10 then ⟨year, month + 3, day⟩ else ⟨year + 1, month - 9, day⟩

/-- The day of the year, from one. -/
def ordinal (date : Date) : Nat :=
  (date.dayNumber - (Date.mk date.year 1 1).dayNumber).toNat + 1

/-- Days since the last Sunday. -/
def fromSunday (date : Date) : Nat :=
  ((date.dayNumber + 4) % 7).toNat

/-- Days since the last Monday. -/
def fromMonday (date : Date) : Nat :=
  (date.fromSunday + 6) % 7

/-- The quarter of the year, from one. -/
def quarter (date : Date) : Nat :=
  (date.month - 1) / 3 + 1

/-- How many weeks of the year have started, when weeks start on Sunday. -/
def weekFromSunday (date : Date) : Nat :=
  (date.ordinal + 6 - date.fromSunday) / 7

/-- How many weeks of the year have started, when weeks start on Monday. -/
def weekFromMonday (date : Date) : Nat :=
  (date.ordinal + 6 - date.fromMonday) / 7

/-- The Thursday of the same week, which decides the year that the week belongs to. -/
def thursday (date : Date) : Date :=
  ofDayNumber (date.dayNumber + 3 - date.fromMonday)

def weekYear (date : Date) : Int :=
  date.thursday.year

/-- The number of the week in the year that it belongs to, from one. -/
def week (date : Date) : Nat :=
  (date.thursday.ordinal - 1) / 7 + 1

end Date

namespace Zone

/-- Seconds to the east of Greenwich. -/
def offset : Zone → Int
  | utc => 0
  | fixed seconds => seconds

end Zone

namespace Instant

/-- The instant of a date and a time of day in Greenwich. -/
def ofUtc (date : Date) (hour minute second nanoseconds : Nat) : Instant :=
  ⟨date.dayNumber * 86400 + hour * 3600 + minute * 60 + second, nanoseconds⟩

/-- The date and time of day that a zone shows at an instant. -/
def inZone (instant : Instant) (zone : Zone) : LocalTime :=
  let seconds := instant.seconds + zone.offset
  let ofDay := (seconds % 86400).toNat
  { date := Date.ofDayNumber (seconds / 86400)
    hour := ofDay / 3600
    minute := ofDay / 60 % 60
    second := ofDay % 60
    nanosecond := instant.nanoseconds
    zone := zone }

end Instant

namespace LocalTime

/-- The instant at which a zone shows a date and a time of day. -/
def instant (time : LocalTime) : Instant :=
  let utc := Instant.ofUtc time.date time.hour time.minute time.second time.nanosecond
  { utc with seconds := utc.seconds - time.zone.offset }

/-- The hour on a dial of twelve. -/
def hour12 (time : LocalTime) : Nat :=
  if time.hour % 12 = 0 then 12 else time.hour % 12

/-- Whether it is noon or later. -/
def isAfternoon (time : LocalTime) : Bool :=
  12 ≤ time.hour

/-- The second as it is shown: a leap second comes after the second before it. -/
def shownSecond (time : LocalTime) : Nat :=
  time.second + time.nanosecond / 1000000000

/-- The part of the second that has passed, in nanoseconds. -/
def fraction (time : LocalTime) : Nat :=
  time.nanosecond % 1000000000

end LocalTime

/-- A way to write a local time by a template; a template may be bad. -/
abbrev Formatter := String → LocalTime → Option String

end ExhaustionGuard.Calendar
