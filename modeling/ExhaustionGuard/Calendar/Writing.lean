import ExhaustionGuard.Calendar
import ExhaustionGuard.Calendar.Template
import ExhaustionGuard.Text.Decimal

/-!
# Writing dates and times

The text of each item of a template at a local time.
-/

namespace ExhaustionGuard.Calendar

/-- Two decimal digits of an 8-bit word. A word of a hundred or more shows the characters after
nine as its tens. -/
def twoDigits (padding : Padding) (value : Nat) : String :=
  let tens := value / 10
  let ones := String.singleton (Char.ofNat ('0'.toNat + value % 10))
  if tens = 0 then
    match padding with
    | .none => ones
    | .space => " " ++ ones
    | .zero => "0" ++ ones
  else String.singleton (Char.ofNat ('0'.toNat + tens)) ++ ones

/-- The digits of a whole number without its sign. -/
def digitsOf (value : Int) : String :=
  toString value.natAbs

/-- The sign of a number: always when asked for, otherwise only below zero. -/
def signOf (always : Bool) (value : Int) : String :=
  if value < 0 then "-" else if always then "+" else ""

/-- A number filled up to a width; zeros go after the sign, spaces before it. -/
def padded (padding : Padding) (width : Nat) (always : Bool) (value : Int) : String :=
  let sign := signOf always value
  let digits := digitsOf value
  match padding with
  | .none => sign ++ digits
  | .zero => sign ++ Text.padLeft '0' (width - sign.length) digits
  | .space => Text.padLeft ' ' width (sign ++ digits)

/-- A year: four digits, and a sign outside of the years that have four digits. -/
def yearText (padding : Padding) (year : Int) : String :=
  if 1000 ≤ year ∧ year ≤ 9999 then toString year
  else if 0 ≤ year ∧ year ≤ 9999 then padded padding 4 false year
  else padded padding 5 true year

/-- The low eight bits of a number. -/
def lowByte (value : Int) : Nat :=
  (value % 256).toNat

def numberText (time : LocalTime) (padding : Padding) : NumberField → String
  | .year => yearText padding time.date.year
  | .century => twoDigits padding (lowByte (time.date.year / 100))
  | .yearOfCentury => twoDigits padding (time.date.year % 100).toNat
  | .weekYear => yearText padding time.date.weekYear
  | .weekYearOfCentury => twoDigits padding (time.date.weekYear % 100).toNat
  | .quarter => toString time.date.quarter
  | .month => twoDigits padding time.date.month
  | .day => twoDigits padding time.date.day
  | .weekFromSunday => twoDigits padding time.date.weekFromSunday
  | .weekFromMonday => twoDigits padding time.date.weekFromMonday
  | .week => twoDigits padding time.date.week
  | .fromSunday => toString time.date.fromSunday
  | .fromMonday => toString (time.date.fromMonday + 1)
  | .ordinal => padded padding 3 false time.date.ordinal
  | .hour => twoDigits padding time.hour
  | .hour12 => twoDigits padding time.hour12
  | .minute => twoDigits padding time.minute
  | .second => twoDigits padding time.shownSecond
  | .nanosecond => padded padding 9 false time.fraction
  | .timestamp => padded padding 9 false time.instant.seconds

def monthNames : List String :=
  ["January", "February", "March", "April", "May", "June", "July", "August", "September",
    "October", "November", "December"]

/-- The names of the days of the week, from Sunday. -/
def weekdayNames : List String :=
  ["Sunday", "Monday", "Tuesday", "Wednesday", "Thursday", "Friday", "Saturday"]

/-- The first three letters of a name. -/
def shorten (name : String) : String :=
  String.ofList (name.toList.take 3)

def monthName (date : Date) : String :=
  monthNames.getD (date.month - 1) ""

def weekdayName (date : Date) : String :=
  weekdayNames.getD date.fromSunday ""

/-- A number with two digits. -/
def two (value : Nat) : String :=
  Text.padLeft '0' 2 (toString value)

/-- The first digits of a fraction of nine digits. -/
def fractionDigits (count fraction : Nat) : String :=
  Text.padLeft '0' count (toString (fraction / Nat.pow 10 (9 - count)))

/-- The point and digits of a fraction, in as few groups of three as it needs. -/
def fractionText (fraction : Nat) : String :=
  if fraction = 0 then ""
  else if fraction % 1000000 = 0 then "." ++ fractionDigits 3 fraction
  else if fraction % 1000 = 0 then "." ++ fractionDigits 6 fraction
  else "." ++ fractionDigits 9 fraction

/-- An offset from Greenwich. Minutes are rounded to the nearest, hours are cut off. -/
def offsetText (precision : OffsetPrecision) (colons : Bool) (offset : Int) : String :=
  let sign := if offset < 0 then "-" else "+"
  let distance := offset.natAbs
  let colon := if colons then ":" else ""
  match precision with
  | .hours => sign ++ two (distance / 3600)
  | .minutes =>
      let minutes := (distance + 30) / 60
      sign ++ two (minutes / 60) ++ colon ++ two (minutes % 60)
  | .seconds =>
      sign ++ two (distance / 3600) ++ colon ++ two (distance / 60 % 60) ++ colon ++
        two (distance % 60)

/-- The name of a zone: an offset names itself, with its seconds only when it has some. -/
def zoneName : Zone → String
  | .utc => "UTC"
  | .fixed offset =>
      let sign := if offset < 0 then "-" else "+"
      let distance := offset.natAbs
      let seconds := if distance % 60 = 0 then "" else ":" ++ two (distance % 60)
      sign ++ two (distance / 3600) ++ ":" ++ two (distance / 60 % 60) ++ seconds

def dateTimeText (time : LocalTime) : String :=
  let date := yearText .zero time.date.year ++ "-" ++ two time.date.month ++ "-" ++
    two time.date.day
  let clock := two time.hour ++ ":" ++ two time.minute ++ ":" ++ two time.shownSecond
  date ++ "T" ++ clock ++ fractionText time.fraction ++
    offsetText .minutes true time.zone.offset

/-- The text of an item that has one way to be written. -/
def fieldText (time : LocalTime) : TextField → String
  | .shortMonth => shorten (monthName time.date)
  | .longMonth => monthName time.date
  | .shortWeekday => shorten (weekdayName time.date)
  | .longWeekday => weekdayName time.date
  | .lowerHalfDay => if time.isAfternoon then "pm" else "am"
  | .upperHalfDay => if time.isAfternoon then "PM" else "AM"
  | .fraction => fractionText time.fraction
  | .digits count hasPoint =>
      (if hasPoint then "." else "") ++ fractionDigits count time.fraction
  | .zoneName => zoneName time.zone
  | .offset precision colons => offsetText precision colons time.zone.offset
  | .dateTime => dateTimeText time

def itemText (time : LocalTime) : Item → String
  | .literal c => String.singleton c
  | .number field padding => numberText time padding field
  | .text field => fieldText time field

/-- A template written for a local time, if all of its escapes are known. -/
def write? (template : String) (time : LocalTime) : Option String :=
  (readItems? template).map fun items => String.join (items.map (itemText time))

end ExhaustionGuard.Calendar
