/-!
# Blank characters

The characters with the Unicode property White_Space, and texts without them at either end.
-/

namespace ExhaustionGuard.Text

/-- The code points with the property White_Space. -/
def isBlank (c : Char) : Bool :=
  let n := c.toNat
  (9 ≤ n && n ≤ 13) || n == 0x20 || n == 0x85 || n == 0xA0 || n == 0x1680 ||
    (0x2000 ≤ n && n ≤ 0x200A) || n == 0x2028 || n == 0x2029 || n == 0x202F ||
    n == 0x205F || n == 0x3000

/-- A text without the blank characters at its end. -/
def trimEnd (text : List Char) : List Char :=
  (text.reverse.dropWhile isBlank).reverse

/-- A text without the blank characters at its two ends. -/
def trim (text : List Char) : List Char :=
  trimEnd (text.dropWhile isBlank)

/-- A text cut at every occurrence of a separator: one more part than there are separators. -/
def cut (separator : Char) : List Char → List (List Char)
  | [] => [[]]
  | c :: rest =>
      if c = separator then [] :: cut separator rest
      else
        match cut separator rest with
        | [] => [[c]]
        | part :: parts => (c :: part) :: parts

/-- The two sides of the first occurrence of a separator, if it occurs. -/
def cutOnce (separator : Char) : List Char → Option (List Char × List Char)
  | [] => none
  | c :: rest =>
      if c = separator then some ([], rest)
      else (cutOnce separator rest).map fun sides => (c :: sides.1, sides.2)

end ExhaustionGuard.Text
