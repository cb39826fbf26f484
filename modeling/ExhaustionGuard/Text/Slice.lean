/-!
# Parts of a text by bytes

A part of a text is given by two places, counted in the bytes of its characters. A place inside a
character, or beyond the text, gives no part.
-/

namespace ExhaustionGuard.Text

def byteCount (text : List Char) : Nat :=
  text.foldr (fun c count => c.utf8Size + count) 0

/-- A text from a place on. -/
def afterBytes? : Nat → List Char → Option (List Char)
  | place, [] => if place = 0 then some [] else none
  | place, c :: rest =>
      if place = 0 then some (c :: rest)
      else if c.utf8Size ≤ place then afterBytes? (place - c.utf8Size) rest
      else none

/-- A text up to a place. -/
def beforeBytes? : Nat → List Char → Option (List Char)
  | place, [] => if place = 0 then some [] else none
  | place, c :: rest =>
      if place = 0 then some []
      else if c.utf8Size ≤ place then
        (beforeBytes? (place - c.utf8Size) rest).map fun before => c :: before
      else none

/-- The part of a text between two places. -/
def bytesBetween? (first last : Nat) (text : List Char) : Option (List Char) :=
  (afterBytes? first text).bind (beforeBytes? (last - first))

end ExhaustionGuard.Text
