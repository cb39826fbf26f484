import ExhaustionGuard.Text.Regex

/-!
# Names of classes

A class signature is read as a field descriptor, by a regular expression, and shown as the Java
type it describes. A text that is no descriptor is shown as it is.
-/

namespace ExhaustionGuard.Heap

/-- The pattern of field descriptors, as it is compiled. -/
def descriptorText : String := "^(\\[*)(?:([BCDFIJSZ])|L([^;]+);)$"

/-- The codes of the primitive types. -/
def primitiveCodes : List Char := "BCDFIJSZ".toList

/-- The pattern of the code of a primitive type or the text of a class. -/
def elementPattern : Text.Regex :=
  .alt (.capture 2 (.oneOf primitiveCodes))
    (.seq (.char 'L') (.seq (.capture 3 (.plus (.noneOf [';']))) (.char ';')))

/-- The pattern of field descriptors: brackets, and an element behind them. -/
def descriptorPattern : Text.Regex :=
  .seq .start (.seq (.capture 1 (.star (.char '['))) (.seq (.group elementPattern) .stop))

theorem text_descriptorPattern : descriptorPattern.text = descriptorText := by decide

/-- The Java keyword of a primitive type code. -/
def primitive? : String → Option String
  | "Z" => some "boolean"
  | "B" => some "byte"
  | "C" => some "char"
  | "D" => some "double"
  | "F" => some "float"
  | "I" => some "int"
  | "J" => some "long"
  | "S" => some "short"
  | _ => none

/-- A character of a class text as names show it: a dot for a slash. -/
def dotted (c : Char) : Char := if c = '/' then '.' else c

/-- The Java name of the element type that was caught. -/
def elementName? (captures : Text.Captures) : Option String :=
  match captures 2, captures 3 with
  | some code, _ => primitive? code
  | none, some cls => some (String.ofList (cls.toList.map dotted))
  | none, none => none

/-- How many brackets were caught, each of which is one byte. -/
def dimensionsOf (captures : Text.Captures) : Nat :=
  match captures 1 with
  | some brackets => brackets.utf8ByteSize
  | none => 0

/-- The name of a class: where its signature is a descriptor, that of the type, with one pair of
brackets behind it for each bracket before it. -/
def className (library : Text.RegexLibrary) (signature : String) : String :=
  match (library descriptorText).bind fun search => search signature with
  | none => signature
  | some captures =>
      match elementName? captures with
      | none => signature
      | some name => name ++ String.join (List.replicate (dimensionsOf captures) "[]")

/-! ## A library for the pattern -/

/-- The class text of a reference descriptor `L…;`: not empty, and without a semicolon inside. -/
def classText? : List Char → Option (List Char)
  | 'L' :: rest =>
      let text := rest.takeWhile (· != ';')
      if !text.isEmpty && rest.dropWhile (· != ';') == [';'] then some text else none
  | _ => none

/-- What is caught in an element type, and by which parentheses. -/
def catchElement? (text : List Char) : Option (Nat × List Char) :=
  match text with
  | [code] => if primitiveCodes.contains code then some (2, [code]) else none
  | _ => (classText? text).map fun cls => (3, cls)

/-- The search for a field descriptor. -/
def searchDescriptor : Text.Search := fun signature =>
  let brackets := signature.toList.takeWhile (· == '[')
  (catchElement? (signature.toList.drop brackets.length)).map fun element number =>
    ([element, (1, brackets)].lookup number).map String.ofList

/-- A library that knows the pattern of field descriptors and no other. -/
def descriptorLibrary : Text.RegexLibrary := fun pattern =>
  if pattern = descriptorText then some searchDescriptor else none

end ExhaustionGuard.Heap
