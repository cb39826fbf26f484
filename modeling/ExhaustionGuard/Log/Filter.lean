import ExhaustionGuard.Log
import ExhaustionGuard.Text.Blank
import ExhaustionGuard.Text.Decimal
import ExhaustionGuard.Text.Pattern
import ExhaustionGuard.Text.Slice

/-!
# Log filters

A filter is a list of directives. Each gives the least important level that still shows, for lines
whose topic starts with the directive's target and which have a value of the name it asks for.
The most specific directive that concerns a line decides about it: first the longest target
counts, then the name of a value. Of equally specific ones the last decides. A line that no
directive concerns does not show.
-/

namespace ExhaustionGuard

/-- A test for a value of some name. One that also compares the value is for spans of time, not
for lines. -/
structure FieldTest where
  name : List Char
  compares : Bool
  deriving DecidableEq, Repr

/-- The lines that a directive is about, by the start of their topic, the span of time that they
fall into and a value that they have, and the rank of the least important level shown. -/
structure Directive where
  target : Option (List Char)
  span : Option (List Char)
  field : Option FieldTest
  rank : Nat
  deriving DecidableEq, Repr

/-- Directives in the order in which they are written. -/
structure LogFilter where
  directives : List Directive
  deriving DecidableEq, Repr

/-! ## Levels -/

namespace Level

/-- The rank of everything, for a directive that names no level. -/
def everything : Nat := 5

/-- The names of all levels, by rank. -/
def names : List String := ["off", "error", "warn", "info", "debug", "trace"]

/-- The rank that a text names by a word in any case, or by a number. -/
def readRank? (text : List Char) : Option Nat :=
  match Text.readNatural everything text with
  | .ok rank => some rank
  | .error _ => names.findIdx? (· == String.ofList (text.map Char.toLower))

end Level

/-! ## Directives -/

namespace Directive

/-- Why a directive cannot be read. -/
inductive ReadError where
  /-- It has not the form of a directive. -/
  | malformed
  /-- One of its parts would begin or end inside a character. -/
  | cutInside
  deriving DecidableEq, Repr

/-- The part of a text between two places, counted in bytes. The places are those of the directive
without the blanks around it, and the text is the directive with them; so a directive after a
blank has its parts out of place. -/
def part (text : List Char) (first last : Nat) : Except ReadError (List Char) :=
  match Text.bytesBetween? first last text with
  | some part => .ok part
  | none => .error .cutInside

/-- A value, or the error that the directive is malformed. -/
def orMalformed {α : Type} (value : Option α) : Except ReadError α :=
  match value with
  | some value => .ok value
  | none => .error .malformed

/-- Whether a directive may start with a character. -/
def canStart (c : Char) : Bool :=
  ['-', ':', '_'].contains c || Text.isLetterOrNumber c

/-- Reads the level of a directive; no level shows everything. -/
def readLevel? (text : List Char) : Option Nat :=
  if text.isEmpty then some Level.everything else Level.readRank? text

/-- Whether a value can be compared with a text: with a truth value, a number or, for all other
texts, a search pattern. A number with a plus sign is no pattern. -/
def isComparable : List Char → Bool
  | '+' :: number => Text.isReal number
  | text => Text.isPattern text

/-- Reads a name and, after an equals sign, what the value of that name is compared with. What
follows another equals sign is left out. -/
def readField? (text : List Char) : Option FieldTest :=
  match Text.cut '=' text with
  | [name] => if name.isEmpty then none else some ⟨name, false⟩
  | name :: value :: _ => if isComparable value then some ⟨name, true⟩ else none
  | [] => none

/-- Reads what follows the lines that a directive is about, from a place on: nothing, or an equals
sign and a level, which goes on to the end of the text. -/
def readRank (text : List Char) (place : Nat) : List Char → Except ReadError Nat
  | [] => .ok Level.everything
  | '=' :: _ => do
      let level ← part text (place + 1) (Text.byteCount text)
      orMalformed (readLevel? level)
  | _ => .error .malformed

/-- Reads a directive from a place on, after the opening bracket that follows its target: the name
of a span, a name of a value in braces or both, and a level. -/
def readScope (text : List Char) (target : Option (List Char)) (place : Nat)
    (marks : List Char) : Except ReadError Directive := do
  let (inside, rest) := marks.span fun c => c != ']' && c != '{'
  let stop := place + Text.byteCount inside
  match rest with
  | ']' :: rest =>
      let span ← part text place stop
      let rank ← readRank text (stop + 1) rest
      pure ⟨target, some span, none, rank⟩
  | '{' :: rest =>
      let span ← part text place stop
      let (inside, rest) := rest.span (· != '}')
      let last := stop + 1 + Text.byteCount inside
      match rest with
      | '}' :: rest =>
          let name ← part text (stop + 1) last
          let field ← orMalformed (readField? name)
          match rest with
          | ']' :: rest =>
              let rank ← readRank text (last + 2) rest
              pure ⟨target, if span.isEmpty then none else some span, some field, rank⟩
          | _ => .error .malformed
      | _ => .error .malformed
  | _ => .error .malformed

/-- Reads a directive that does not start with a bracket: a level, a target, or a target with more
about the lines or with a level. -/
def readTarget (text marks : List Char) : Except ReadError Directive := do
  let (inside, rest) := marks.span fun c => c != '=' && c != '['
  match rest with
  | [] =>
      match Level.readRank? text with
      | some rank => pure ⟨none, none, none, rank⟩
      | none => pure ⟨some text, none, none, Level.everything⟩
  | mark :: beyond =>
      let stop := Text.byteCount inside
      let target ← part text 0 stop
      if mark = '[' then readScope text (some target) (stop + 1) beyond
      else
        let rank ← readRank text stop rest
        pure ⟨some target, none, none, rank⟩

/-- Reads one directive. Without the blanks around it, it shows where its parts are. -/
def read (text : List Char) : Except ReadError Directive :=
  match Text.trim text with
  | [] => .error .malformed
  | '[' :: marks => readScope text none 1 marks
  | mark :: marks =>
      if canStart mark then readTarget text (mark :: marks) else .error .malformed

/-- Whether a directive is about a line. No line falls into a span. -/
def concerns (directive : Directive) (line : LogLine) : Bool :=
  directive.span.isNone
    && directive.target.all (fun target => target.isPrefixOf line.topic.name.toList)
    && directive.field.all fun field =>
      !field.compares && line.fieldNames.contains (String.ofList field.name)

/-- The measure of a target: a longer one is more specific, and any is more than none. -/
def targetSize (directive : Directive) : Nat :=
  (directive.target.map fun target => target.length + 1).getD 0

/-- The name of the value that a directive asks for, empty without one. -/
def fieldName (directive : Directive) : List Char :=
  (directive.field.map FieldTest.name).getD []

/-- Whether a directive is at most as specific as another. -/
def yields (directive other : Directive) : Bool :=
  directive.targetSize < other.targetSize
    || directive.targetSize == other.targetSize &&
      !List.lex other.fieldName directive.fieldName fun c d => c.toNat < d.toNat

end Directive

/-! ## Filters -/

namespace LogFilter

/-- Reads directives separated by commas. -/
def read (text : String) : Except Directive.ReadError LogFilter :=
  let parts := (Text.cut ',' text.toList).filter fun part => !part.isEmpty
  (parts.mapM Directive.read).map LogFilter.mk

/-- The filter of everything except details. -/
def standard : LogFilter := ⟨[⟨none, none, none, Level.info.rank⟩]⟩

/-- The filter that a setting asks for; the standard one without a setting, or for a setting with a
malformed directive. There is none for a setting that would be cut inside a character. -/
def ofSetting? (setting : Option String) : Option LogFilter :=
  match setting.map read with
  | none => some standard
  | some (.ok filter) => some filter
  | some (.error .malformed) => some standard
  | some (.error .cutInside) => none

/-- The directive that decides after one more: the more specific, and of equals the later. -/
def prefer (best : Option Directive) (next : Directive) : Option Directive :=
  match best with
  | none => some next
  | some kept => if kept.yields next then some next else some kept

def decider? (filter : LogFilter) (line : LogLine) : Option Directive :=
  (filter.directives.filter fun directive => directive.concerns line).foldl prefer none

/-- Whether a filter lets a line through. -/
def shows (filter : LogFilter) (line : LogLine) : Bool :=
  (filter.decider? line).any fun directive => line.level.rank ≤ directive.rank

/-- Reads settings as filters. -/
def reader : LogReader := fun setting => (ofSetting? setting).map shows

end LogFilter

end ExhaustionGuard
