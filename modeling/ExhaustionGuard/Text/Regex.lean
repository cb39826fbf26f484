/-!
# Regular expressions

Patterns, the text in which a library for regular expressions is given them, and what it means
that a part of a text matches a pattern. A library compiles a pattern and then searches texts for
it; what is relied on is that it finds a match where there is one, and tells of no other.
-/

namespace ExhaustionGuard.Text

/-- A pattern for parts of a text. -/
inductive Regex where
  /-- Nothing, at the beginning of the text. -/
  | start
  /-- Nothing, at the end of the text. -/
  | stop
  | char (c : Char)
  | oneOf (chars : List Char)
  | noneOf (chars : List Char)
  | star (body : Regex)
  | plus (body : Regex)
  | seq (first second : Regex)
  | alt (left right : Regex)
  /-- A pattern in parentheses that catch nothing. -/
  | group (body : Regex)
  /-- A pattern in the parentheses with a number, which catch what matches it. -/
  | capture (number : Nat) (body : Regex)
  deriving DecidableEq, Repr

namespace Regex

/-- The characters that have a meaning of their own in the text of a pattern. -/
def metaCharacters : List Char :=
  "\\.+*?()|[]^$#&-~".toList ++ ['\x7b', '\x7d']

/-- The text of a character that stands for itself. -/
def literal (c : Char) : String :=
  if metaCharacters.contains c then "\\" ++ String.singleton c else String.singleton c

/-- The text of a pattern. -/
def text : Regex → String
  | start => "^"
  | stop => "$"
  | char c => literal c
  | oneOf chars => "[" ++ String.ofList chars ++ "]"
  | noneOf chars => "[^" ++ String.ofList chars ++ "]"
  | star body => body.text ++ "*"
  | plus body => body.text ++ "+"
  | seq first second => first.text ++ second.text
  | alt left right => left.text ++ "|" ++ right.text
  | group body => "(?:" ++ body.text ++ ")"
  | capture _ body => "(" ++ body.text ++ ")"

/-- A part of a text matches a pattern, with what stands before and behind it in the text and what
the parentheses caught, the latest first. -/
inductive Matches : Regex → List Char → List Char → List Char → List (Nat × List Char) → Prop
  | start {behind} : Matches start [] [] behind []
  | stop {before} : Matches stop before [] [] []
  | char {c before behind} : Matches (char c) before [c] behind []
  | oneOf {chars c before behind} : c ∈ chars → Matches (oneOf chars) before [c] behind []
  | noneOf {chars c before behind} : c ∉ chars → Matches (noneOf chars) before [c] behind []
  | none {body before behind} : Matches (star body) before [] behind []
  | more {body before first rest behind early late} :
      Matches body before first (rest ++ behind) early →
      Matches (star body) (before ++ first) rest behind late →
      Matches (star body) before (first ++ rest) behind (late ++ early)
  | plus {body before first rest behind early late} :
      Matches body before first (rest ++ behind) early →
      Matches (star body) (before ++ first) rest behind late →
      Matches (plus body) before (first ++ rest) behind (late ++ early)
  | seq {first second before left right behind early late} :
      Matches first before left (right ++ behind) early →
      Matches second (before ++ left) right behind late →
      Matches (seq first second) before (left ++ right) behind (late ++ early)
  | left {left right before part behind caught} :
      Matches left before part behind caught → Matches (alt left right) before part behind caught
  | right {left right before part behind caught} :
      Matches right before part behind caught → Matches (alt left right) before part behind caught
  | group {body before part behind caught} :
      Matches body before part behind caught → Matches (group body) before part behind caught
  | capture {number body before part behind caught} :
      Matches body before part behind caught →
      Matches (capture number body) before part behind ((number, part) :: caught)

end Regex

/-- What the parentheses of a pattern caught, by their numbers, which begin at one. -/
abbrev Captures := Nat → Option String

/-- A search for a pattern in a text: what was caught in a match, if there is one. -/
abbrev Search := String → Option Captures

/-- A library for regular expressions: the search for a pattern, if its text can be compiled. -/
abbrev RegexLibrary := String → Option Search

/-- A search goes by a pattern: it tells of a match just if there is one in the text. Which one it
tells of, where there are several, is left open. -/
structure Search.GoesBy (search : Search) (pattern : Regex) : Prop where
  found : ∀ {text : String} {captures : Captures}, search text = some captures →
    ∃ before part behind caught, before ++ part ++ behind = text.toList ∧
      pattern.Matches before part behind caught ∧
      ∀ number, 0 < number → captures number = (caught.lookup number).map String.ofList
  missed : ∀ {text : String}, search text = none → ∀ before part behind caught,
    before ++ part ++ behind = text.toList → ¬ pattern.Matches before part behind caught

/-- A library can compile a pattern, and its search goes by the pattern. -/
def RegexLibrary.Supports (library : RegexLibrary) (pattern : Regex) : Prop :=
  ∃ search : Search, library pattern.text = some search ∧ search.GoesBy pattern

end ExhaustionGuard.Text
