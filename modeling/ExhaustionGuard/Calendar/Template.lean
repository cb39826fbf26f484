/-!
# Time templates

A template is a text with escapes that stand for parts of a date or time. Reading one yields the
items to be written, or nothing if any escape is unknown or broken off: a template with one bad
escape is bad as a whole.
-/

namespace ExhaustionGuard.Calendar

/-- What fills a number up to its width. -/
inductive Padding where
  | none | zero | space
  deriving DecidableEq, Repr

/-- A part of a date or time that is written as a number. -/
inductive NumberField where
  | year | century | yearOfCentury | weekYear | weekYearOfCentury | quarter | month | day
  | weekFromSunday | weekFromMonday | week | fromSunday | fromMonday | ordinal
  | hour | hour12 | minute | second | nanosecond | timestamp
  deriving DecidableEq, Repr

/-- How exactly an offset from Greenwich is written. -/
inductive OffsetPrecision where
  | hours | minutes | seconds
  deriving DecidableEq, Repr

/-- A part of a date or time that has one way to be written. -/
inductive TextField where
  | shortMonth | longMonth | shortWeekday | longWeekday | lowerHalfDay | upperHalfDay
  /-- The point and digits of the second, in groups of three, none for a whole second. -/
  | fraction
  /-- So many digits of the second, with a point before them or none. -/
  | digits (count : Nat) (point : Bool)
  | zoneName
  | offset (precision : OffsetPrecision) (colons : Bool)
  /-- Date, time and offset in one. -/
  | dateTime
  deriving DecidableEq, Repr

inductive Item where
  | literal (c : Char)
  | number (field : NumberField) (padding : Padding)
  | text (field : TextField)
  deriving DecidableEq, Repr

namespace Item

/-- A number of a fixed width, filled with zeros. -/
def zeros (field : NumberField) : Item := number field .zero

/-- The items of a date in year, month, day order. -/
def isoDate : List Item :=
  [zeros .year, literal '-', zeros .month, literal '-', zeros .day]

/-- The items of a date in month, day, year order. -/
def slashDate : List Item :=
  [zeros .month, literal '/', zeros .day, literal '/', zeros .yearOfCentury]

def hourMinute : List Item :=
  [zeros .hour, literal ':', zeros .minute]

def timeOfDay : List Item :=
  hourMinute ++ [literal ':', zeros .second]

/-- The items of an escape that is one letter after the percent sign. -/
def ofLetter? : Char → Option (List Item)
  | '%' => some [literal '%']
  | 'A' => some [text .longWeekday]
  | 'B' => some [text .longMonth]
  | 'C' => some [zeros .century]
  | 'D' => some slashDate
  | 'F' => some isoDate
  | 'G' => some [zeros .weekYear]
  | 'H' => some [zeros .hour]
  | 'I' => some [zeros .hour12]
  | 'M' => some [zeros .minute]
  | 'P' => some [text .lowerHalfDay]
  | 'R' => some hourMinute
  | 'S' => some [zeros .second]
  | 'T' => some timeOfDay
  | 'U' => some [zeros .weekFromSunday]
  | 'V' => some [zeros .week]
  | 'W' => some [zeros .weekFromMonday]
  | 'X' => some timeOfDay
  | 'Y' => some [zeros .year]
  | 'Z' => some [text .zoneName]
  | 'a' => some [text .shortWeekday]
  | 'b' => some [text .shortMonth]
  | 'c' => some ([text .shortWeekday, literal ' ', text .shortMonth, literal ' ',
      number .day .space, literal ' '] ++ timeOfDay ++ [literal ' ', zeros .year])
  | 'd' => some [zeros .day]
  | 'e' => some [number .day .space]
  | 'f' => some [zeros .nanosecond]
  | 'g' => some [zeros .weekYearOfCentury]
  | 'h' => some [text .shortMonth]
  | 'j' => some [zeros .ordinal]
  | 'k' => some [number .hour .space]
  | 'l' => some [number .hour12 .space]
  | 'm' => some [zeros .month]
  | 'n' => some [literal '\n']
  | 'p' => some [text .upperHalfDay]
  | 'q' => some [number .quarter .none]
  | 'r' => some [zeros .hour12, literal ':', zeros .minute, literal ':', zeros .second,
      literal ' ', text .upperHalfDay]
  | 's' => some [number .timestamp .none]
  | 't' => some [literal '\t']
  | 'u' => some [number .fromMonday .none]
  | 'v' => some [number .day .space, literal '-', text .shortMonth, literal '-', zeros .year]
  | 'w' => some [number .fromSunday .none]
  | 'x' => some slashDate
  | 'y' => some [zeros .yearOfCentury]
  | 'z' => some [text (.offset .minutes false)]
  | '+' => some [text .dateTime]
  | _ => none

/-- An escape with another padding, which only a single number can have. -/
def repad? (padding : Padding) : List Item → Option (List Item)
  | [number field _] => some [number field padding]
  | _ => none

end Item

/-- How far an escape has been read. -/
inductive EscapeState where
  /-- Outside of any escape. -/
  | plain
  /-- After the percent sign. -/
  | opened
  /-- After the sign of a padding. -/
  | padded (padding : Padding)
  /-- After so many colons. -/
  | colons (count : Nat)
  /-- After a point. -/
  | point
  /-- After a number of digits, with a point before it or none. -/
  | digits (count : Nat) (point : Bool)
  deriving DecidableEq, Repr

namespace EscapeState

def finish (items : Option (List Item)) : Option (List Item × EscapeState) :=
  items.map fun items => (items, plain)

/-- The number of digits of a fraction that can be asked for. -/
def digitCount? : Char → Option Nat
  | '3' => some 3
  | '6' => some 6
  | '9' => some 9
  | _ => none

/-- The padding that a sign after the percent sign asks for. -/
def paddingOf? : Char → Option Padding
  | '-' => some .none
  | '0' => some .zero
  | '_' => some .space
  | _ => none

/-- What the character after a percent sign does. -/
def open? (c : Char) : Option (List Item × EscapeState) :=
  if c = ':' then some ([], colons 1)
  else if c = '.' then some ([], point)
  else
    match paddingOf? c, digitCount? c with
    | some padding, _ => some ([], padded padding)
    | none, some count => some ([], digits count false)
    | none, none => finish (Item.ofLetter? c)

/-- What the character after colons does. -/
def colon? (count : Nat) (c : Char) : Option (List Item × EscapeState) :=
  if c = ':' then if count < 3 then some ([], colons (count + 1)) else none
  else if c = 'z' then
    match count with
    | 1 => some ([.text (.offset .minutes true)], plain)
    | 2 => some ([.text (.offset .seconds true)], plain)
    | _ => some ([.text (.offset .hours false)], plain)
  else none

/-- What the next character does: the items it completes and the state after it. -/
def step : EscapeState → Char → Option (List Item × EscapeState)
  | plain, c => if c = '%' then some ([], opened) else some ([.literal c], plain)
  | opened, c => open? c
  | padded padding, c => finish ((Item.ofLetter? c).bind (Item.repad? padding))
  | colons count, c => colon? count c
  | point, c =>
      if c = 'f' then some ([.text .fraction], plain)
      else (digitCount? c).map fun count => ([], digits count true)
  | digits count hasPoint, c =>
      if c = 'f' then some ([.text (.digits count hasPoint)], plain) else none

end EscapeState

/-- Reads the rest of a template from a state of the reading on. -/
def readItemsFrom : EscapeState → List Char → Option (List Item)
  | .plain, [] => some []
  | _, [] => none
  | state, c :: rest =>
      match state.step c with
      | none => none
      | some (items, next) => (readItemsFrom next rest).map fun later => items ++ later

/-- The items of a template, if all of its escapes are known. -/
def readItems? (template : String) : Option (List Item) :=
  readItemsFrom .plain template.toList

end ExhaustionGuard.Calendar
