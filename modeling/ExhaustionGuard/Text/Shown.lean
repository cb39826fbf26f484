import ExhaustionGuard.Text.Marks
import ExhaustionGuard.Text.Unseen

/-!
# Characters that show

Which characters a reader would see where they are printed, and how the others are written out.
Neither combining marks nor unseen characters show by themselves.
-/

namespace ExhaustionGuard.Text

def shows (c : Char) : Bool :=
  !isMark c && !isUnseen c

/-- A code point written out in hexadecimal. -/
def codePoint (c : Char) : String :=
  "\\u\x7b" ++ String.ofList (Nat.toDigits 16 c.toNat) ++ "\x7d"

/-- A character of a quoted text, with an escape where it would not show. -/
def quotedChar (c : Char) : String :=
  if c = '"' then "\\\""
  else if c = '\\' then "\\\\"
  else if c = '\n' then "\\n"
  else if c = '\r' then "\\r"
  else if c = '\t' then "\\t"
  else if c = '\x00' then "\\0"
  else if shows c then String.singleton c
  else codePoint c

/-- A text between double quotes. -/
def quoted (text : String) : String :=
  "\"" ++ String.join (text.toList.map quotedChar) ++ "\""

/-- A character of a plain text. Those that a terminal would act upon are written out. -/
def harmlessChar (c : Char) : String :=
  if c = '\x1B' then "\\x1b"
  else if c = '\x07' then "\\x07"
  else if c = '\x08' then "\\x08"
  else if c = '\x0C' then "\\x0c"
  else if c = '\x7F' then "\\x7f"
  else if 0x80 ≤ c.toNat && c.toNat ≤ 0x9F then codePoint c
  else String.singleton c

/-- A text without characters that a terminal would act upon. Tabs and line ends stay. -/
def harmless (text : String) : String :=
  String.join (text.toList.map harmlessChar)

end ExhaustionGuard.Text
