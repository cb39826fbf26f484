/-!
# Decimal numbers

Reading whole numbers from text, with the reason when a text is no number of the wanted size,
telling which texts are numbers with a point, and laying numbers and names out in columns.
-/

namespace ExhaustionGuard.Text

/-- Why a text is not a number of the wanted size. -/
inductive NumberError where
  | empty
  | invalidDigit
  | tooLarge
  deriving DecidableEq, Repr

namespace NumberError

/-- The reason in words. -/
def message : NumberError → String
  | empty => "cannot parse integer from empty string"
  | invalidDigit => "invalid digit found in string"
  | tooLarge => "number too large to fit in target type"

end NumberError

/-- The value of an ASCII digit. -/
def digit? (c : Char) : Option Nat :=
  if '0' ≤ c ∧ c ≤ '9' then some (c.toNat - '0'.toNat) else none

/-- Reads digits onto a value; the first character that is no digit, or that takes the value
past the bound, decides the error. -/
def readDigits (bound : Nat) : Nat → List Char → Except NumberError Nat
  | value, [] => .ok value
  | value, c :: rest =>
      match digit? c with
      | none => .error .invalidDigit
      | some d =>
          if 10 * value + d ≤ bound then readDigits bound (10 * value + d) rest
          else .error .tooLarge

/-- Reads a natural number up to a bound: digits, with a plus sign before them or none. -/
def readNatural (bound : Nat) : List Char → Except NumberError Nat
  | [] => .error .empty
  | ['+'] => .error .invalidDigit
  | '+' :: digits => readDigits bound 0 digits
  | digits => readDigits bound 0 digits

/-- Reads a signed 32-bit number: digits, with a sign before them or none. -/
def readInt32 : List Char → Except NumberError Int
  | ['-'] => .error .invalidDigit
  | '-' :: digits => (readDigits 0x80000000 0 digits).map fun n => -(n : Int)
  | text => (readNatural 0x7FFFFFFF text).map fun n => (n : Int)

/-- Whether a text is a power of ten after a number, or nothing. -/
def isPower : List Char → Bool
  | [] => true
  | sign :: digits =>
      let digits := if ['+', '-'].contains (digits.headD '0') then digits.drop 1 else digits
      sign.toLower == 'e' && !digits.isEmpty && digits.all Char.isDigit

/-- Whether a text is a number without a sign: digits with a point among them or none, and a
power of ten, or the word for an endless or missing number. -/
def isReal (text : List Char) : Bool :=
  let word := String.ofList (text.map Char.toLower)
  let whole := text.takeWhile Char.isDigit
  let rest := text.drop whole.length
  let (places, power) :=
    match rest with
    | '.' :: rest => (rest.takeWhile Char.isDigit, rest.dropWhile Char.isDigit)
    | _ => ([], rest)
  ["inf", "infinity", "nan"].contains word
    || (!(whole ++ places).isEmpty && isPower power)

/-- A text followed by spaces up to a width counted in characters. -/
def padRight (width : Nat) (text : String) : String :=
  text ++ String.ofList (List.replicate (width - text.length) ' ')

/-- A text preceded by fillers up to a width counted in characters. -/
def padLeft (filler : Char) (width : Nat) (text : String) : String :=
  String.ofList (List.replicate (width - text.length) filler) ++ text

end ExhaustionGuard.Text
