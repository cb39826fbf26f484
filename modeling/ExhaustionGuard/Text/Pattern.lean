import ExhaustionGuard.Text.Blank
import ExhaustionGuard.Text.Letter

/-!
# Search patterns

Which texts are search patterns: characters, classes, groups, alternatives and repetitions. Here
is decided only whether a text can be read as a pattern; nothing is searched for.

A pattern stands between braces, so it holds no closing brace of its own. Nothing that needs one,
such as a counted repetition, can be read in it. A pattern is a tree, and a tree that is too high
cannot be read either.
-/

namespace ExhaustionGuard.Text.Pattern

/-- How the characters of a pattern are taken. -/
structure Mode where
  /-- They stand for whole characters, not for bytes. -/
  whole : Bool
  /-- Blanks between them, and remarks up to the end of a line, are left out. -/
  loose : Bool
  deriving DecidableEq, Repr

namespace Mode

def standard : Mode := ⟨true, false⟩

/-- A text without the blanks and remarks at its start, from inside a remark or not. -/
def skipLoose : Bool → List Char → List Char
  | _, [] => []
  | inRemark, c :: rest =>
      if inRemark then skipLoose (c != '\n') rest
      else if isBlank c then skipLoose false rest
      else if c = '#' then skipLoose true rest
      else c :: rest

/-- A text without the blanks and remarks at its start, as far as the mode leaves them out. -/
def skip (mode : Mode) (text : List Char) : List Char :=
  if mode.loose then skipLoose false text else text

/-- The character that follows, past blanks and the mark of a remark as far as the mode leaves
these out. -/
def peek (mode : Mode) (text : List Char) : Option Char :=
  if mode.loose then
    match text.dropWhile isBlank with
    | '#' :: rest => (rest.dropWhile isBlank).head?
    | rest => rest.head?
  else text.head?

/-- Whether a character can stand in a class: bytes beyond ASCII are no characters. -/
def admits (mode : Mode) (c : Char) : Bool :=
  mode.whole || c.toNat < 0x80

end Mode

/-- The height of a node over parts of some heights. A part alone needs no node. -/
def heightOver : List Nat → Nat
  | [] => 0
  | [height] => height
  | heights => heights.foldl max 0 + 1

def highest : Nat := 250

/-- What a part of a pattern stands for: one character, some characters, or a place between
characters. -/
inductive Item where
  | char (c : Char)
  | chars
  | place
  deriving DecidableEq, Repr

/-! ## Escapes -/

/-- The value of a hexadecimal digit. -/
def hexDigit? (c : Char) : Option Nat :=
  "0123456789abcdef".toList.findIdx? (· == c.toLower)

/-- Reads hexadecimal digits onto a value. -/
def readHex (mode : Mode) : Nat → Nat → List Char → Option (Nat × List Char)
  | 0, value, text => some (value, mode.skip text)
  | digits + 1, value, text =>
      match mode.skip text with
      | [] => none
      | c :: rest =>
          match hexDigit? c with
          | some digit => readHex mode digits (16 * value + digit) rest
          | none => none

/-- Reads a character that is written by the digits of its code point. -/
def readCodePoint (mode : Mode) (digits : Nat) (text : List Char) : Option (Item × List Char) :=
  match readHex mode digits 0 text with
  | some (value, rest) =>
      if h : value.isValidChar then some (.char (Char.ofNatAux value h), rest) else none
  | none => none

/-- The characters that letters after a backslash stand for. -/
def controls : List (Char × Char) :=
  [('a', '\x07'), ('f', '\x0C'), ('t', '\t'), ('n', '\n'), ('r', '\r'), ('v', '\x0B')]

/-- The first letters of the general categories. -/
def categories : List Char := ['c', 'l', 'm', 'n', 'p', 's', 'z']

/-- Reads what follows a backslash. The borders of words are found between bytes only, and the
complement of a class among whole characters only. -/
def readEscape (mode : Mode) : List Char → Option (Item × List Char)
  | [] => none
  | c :: rest =>
      if c = 'x' then
        match readCodePoint mode 2 rest with
        | some (.char code, rest) => if mode.admits code then some (.char code, rest) else none
        | _ => none
      else if c = 'u' then readCodePoint mode 4 rest
      else if c = 'U' then readCodePoint mode 8 rest
      else if ['p', 'P'].contains c then
        match mode.skip rest with
        | [] => none
        | name :: rest =>
            if mode.whole && categories.contains name.toLower then some (.chars, mode.skip rest)
            else none
      else if ['d', 's', 'w'].contains c then some (.chars, rest)
      else if ['D', 'S', 'W'].contains c then if mode.whole then some (.chars, rest) else none
      else if ['b', 'B', '<', '>'].contains c then
        if mode.whole then none else some (.place, rest)
      else if ['A', 'z'].contains c then some (.place, rest)
      else
        match controls.lookup c with
        | some code => some (.char code, rest)
        | none => if c.toNat < 0x80 && !c.isAlphanum then some (.char c, rest) else none

/-! ## Classes -/

/-- The names of classes that stand between colons. -/
def classNames : List String :=
  ["alnum", "alpha", "ascii", "blank", "cntrl", "digit", "graph", "lower", "print", "punct",
    "space", "upper", "word", "xdigit"]

/-- Reads a class by its name, after an opening bracket, and whether it is the complement. -/
def readNamedClass : List Char → Option (Bool × List Char)
  | ':' :: text =>
      let complement := text.head? == some '^'
      let text := if complement then text.drop 1 else text
      let name := text.takeWhile (· ≠ ':')
      match text.drop name.length with
      | ':' :: ']' :: rest =>
          if classNames.contains (String.ofList name) then some (complement, rest) else none
      | _ => none
  | _ => none

/-- A class that is being read: the height of what stands before the operator at hand, if there
is one, and the heights of the members after it. -/
structure ClassLevel where
  before : Option Nat
  members : List Nat
  deriving DecidableEq, Repr

namespace ClassLevel

/-- The height of the members, with what they are combined with. -/
def height (level : ClassLevel) : Nat :=
  match level.before with
  | none => heightOver level.members
  | some height => max height (heightOver level.members) + 1

/-- A class with one more member. -/
def add (level : ClassLevel) (height : Nat) : ClassLevel :=
  { level with members := height :: level.members }

/-- A class after an operator, which takes all before it as its first operand. -/
def combined (level : ClassLevel) : ClassLevel :=
  ⟨some level.height, []⟩

end ClassLevel

/-- Reads hyphens that stand for themselves, and counts them. There are fewer than characters. -/
def readHyphens (mode : Mode) : Nat → List Char → Nat × List Char
  | fuel + 1, '-' :: rest =>
      let (count, rest) := readHyphens mode fuel (mode.skip rest)
      (count + 1, rest)
  | _, text => (0, text)

/-- Reads the start of a class, after its opening bracket: the sign of a complement, and hyphens
or a closing bracket that stand for themselves. Something has to follow. -/
def openClass (mode : Mode) (text : List Char) : Option (ClassLevel × List Char) :=
  let text := mode.skip text
  let complement := text.head? == some '^'
  let text := if complement then mode.skip (text.drop 1) else text
  let (count, rest) :=
    match text with
    | ']' :: rest => (1, mode.skip rest)
    | _ => readHyphens mode text.length text
  if rest.isEmpty || (complement && !mode.whole) then none
  else some (⟨none, List.replicate count 0⟩, rest)

/-- Reads one member of a class. -/
def readMember (mode : Mode) : List Char → Option (Item × List Char)
  | [] => none
  | '\\' :: rest => readEscape mode rest
  | c :: rest => some (.char c, rest)

/-- Whether an item can be a member of a class. -/
def isMember (mode : Mode) : Item → Bool
  | .char c => mode.admits c
  | .chars => true
  | .place => false

/-- Whether an item can be the start, and another the end, of a range of characters. -/
def isRange (mode : Mode) : Item → Item → Bool
  | .char first, .char last => first ≤ last && mode.admits first && mode.admits last
  | _, _ => false

/-- Reads a member of a class, or a range of members. -/
def readRange (mode : Mode) (text : List Char) : Option (List Char) :=
  match readMember mode text with
  | none => none
  | some (first, rest) =>
      match mode.skip rest with
      | [] => none
      | '-' :: beyond =>
          if [some ']', some '-'].contains (mode.peek beyond) then
            if isMember mode first then some ('-' :: beyond) else none
          else
            match readMember mode (mode.skip beyond) with
            | some (last, rest) => if isRange mode first last then some rest else none
            | none => none
      | rest => if isMember mode first then some rest else none

/-- Reads a class, inside some others, up to the end of the outermost, whose height it yields.
Each step takes a character at least, so the length of the text is fuel enough. -/
def readClass (mode : Mode) :
    Nat → ClassLevel → List ClassLevel → List Char → Option (Nat × List Char)
  | 0, _, _, _ => none
  | fuel + 1, level, outer, text =>
      match mode.skip text with
      | [] => none
      | ']' :: rest =>
          match outer with
          | [] => some (level.height + 1, rest)
          | next :: outer => readClass mode fuel (next.add (level.height + 1)) outer rest
      | '[' :: rest =>
          match readNamedClass rest with
          | some (complement, rest) =>
              if complement && !mode.whole then none
              else readClass mode fuel (level.add 0) outer rest
          | none =>
              match openClass mode rest with
              | some (inner, rest) => readClass mode fuel inner (level :: outer) rest
              | none => none
      | '&' :: '&' :: rest => readClass mode fuel level.combined outer rest
      | '-' :: '-' :: rest => readClass mode fuel level.combined outer rest
      | '~' :: '~' :: rest => readClass mode fuel level.combined outer rest
      | member :: rest =>
          match readRange mode (member :: rest) with
          | some rest => readClass mode fuel (level.add 0) outer rest
          | none => none

/-! ## Groups -/

/-- Reads the name of a group: a letter or underline first, then also numbers, dots and
brackets. No two groups share a name. -/
def readName (taken : List (List Char)) (text : List Char) :
    Option (List (List Char) × List Char) :=
  let name := text.takeWhile (· ≠ '>')
  match name, text.drop name.length with
  | first :: others, '>' :: rest =>
      let starts := first == '_' || isLetter first
      let goesOn := others.all fun c => ['_', '.', '[', ']'].contains c || isLetterOrNumber c
      if starts && goesOn && !taken.contains name then some (name :: taken, rest) else none
  | _, _ => none

/-- Reads the flags of a group up to the colon or bracket that ends them. After a hyphen, which
stands once and before another flag, flags are unset. The flags so far come latest first. -/
def readFlags (mode : Mode) : List Char → List Char → Option (Mode × List Char × List Char)
  | _, [] => none
  | flags, c :: rest =>
      if [':', ')'].contains c then
        if flags.head? == some '-' then none else some (mode, flags, c :: rest)
      else if flags.contains c then none
      else if c = 'u' then
        readFlags { mode with whole := !flags.contains '-' } (c :: flags) rest
      else if c = 'x' then
        readFlags { mode with loose := !flags.contains '-' } (c :: flags) rest
      else if ['-', 'i', 'm', 's', 'U', 'R'].contains c then readFlags mode (c :: flags) rest
      else none

/-- What an opening bracket starts: a group, or new flags for the rest of the group around it. -/
inductive Opening where
  | group (mode : Mode) (names : List (List Char)) (rest : List Char)
  | flags (mode : Mode) (rest : List Char)
  deriving DecidableEq, Repr

/-- Reads what follows an opening bracket. Nothing can be asked of the text around a match. -/
def readOpening (mode : Mode) (names : List (List Char)) (text : List Char) : Option Opening :=
  let named := fun text =>
    (readName names text).map fun (names, rest) => Opening.group mode names rest
  match mode.skip text with
  | '?' :: '=' :: _ => none
  | '?' :: '!' :: _ => none
  | '?' :: '<' :: '=' :: _ => none
  | '?' :: '<' :: '!' :: _ => none
  | '?' :: '<' :: rest => named rest
  | '?' :: 'P' :: '<' :: rest => named rest
  | '?' :: rest =>
      match readFlags mode [] rest with
      | some (inner, _, ':' :: rest) => some (.group inner names rest)
      | some (inner, flags, ')' :: rest) =>
          if flags.isEmpty then none else some (.flags inner rest)
      | _ => none
  | rest => some (.group mode names rest)

/-! ## Patterns -/

/-- A group that is being read, in a mode: the heights of its earlier branches, and of the parts of
the branch at hand, the latest first. Flags are a part without a height. -/
structure GroupLevel where
  mode : Mode
  branches : List Nat
  parts : List (Option Nat)
  deriving DecidableEq, Repr

namespace GroupLevel

def start (mode : Mode) : GroupLevel := ⟨mode, [], []⟩

def branchHeight (level : GroupLevel) : Nat :=
  heightOver (level.parts.map fun part => part.getD 0)

def height (level : GroupLevel) : Nat :=
  heightOver (level.branchHeight :: level.branches)

/-- A group with one more part. -/
def add (level : GroupLevel) (height : Nat) : GroupLevel :=
  { level with parts := some height :: level.parts }

/-- A group with its last part repeated. There has to be a part, and flags cannot be repeated. -/
def repeated? (level : GroupLevel) : Option GroupLevel :=
  match level.parts with
  | some height :: parts => some { level with parts := some (height + 1) :: parts }
  | _ => none

/-- A group at the start of another branch. -/
def branched (level : GroupLevel) : GroupLevel :=
  ⟨level.mode, level.branchHeight :: level.branches, []⟩

/-- A group after new flags. -/
def flagged (level : GroupLevel) (mode : Mode) : GroupLevel :=
  ⟨mode, level.branches, none :: level.parts⟩

end GroupLevel

/-- The height of a pattern that goes on with a text, inside a group inside others and after groups
with names. Each step takes a character at least, so the length of the text is fuel enough. -/
def readFrom : Nat → GroupLevel → List GroupLevel → List (List Char) → List Char → Option Nat
  | 0, _, _, _, _ => none
  | fuel + 1, level, outer, names, text =>
      let mode := level.mode
      match mode.skip text with
      | [] => if outer.isEmpty then some level.height else none
      | '(' :: rest =>
          match readOpening mode names rest with
          | some (.group inner names rest) =>
              readFrom fuel (.start inner) (level :: outer) names rest
          | some (.flags inner rest) => readFrom fuel (level.flagged inner) outer names rest
          | none => none
      | ')' :: rest =>
          match outer with
          | [] => none
          | next :: outer => readFrom fuel (next.add (level.height + 1)) outer names rest
      | '|' :: rest => readFrom fuel level.branched outer names rest
      | '[' :: rest =>
          let members := (openClass mode rest).bind fun (inner, rest) =>
            readClass mode (rest.length + 1) inner [] rest
          match members with
          | some (height, rest) => readFrom fuel (level.add height) outer names rest
          | none => none
      | '\\' :: rest =>
          match readEscape mode rest with
          | some (_, rest) => readFrom fuel (level.add 0) outer names rest
          | none => none
      | '{' :: _ => none
      | c :: rest =>
          if ['?', '*', '+'].contains c then
            let rest := if rest.head? == some '?' then rest.drop 1 else rest
            match level.repeated? with
            | some level => readFrom fuel level outer names rest
            | none => none
          else if c = '.' && !mode.whole then none
          else readFrom fuel (level.add 0) outer names rest

end Pattern

def isPattern (text : List Char) : Bool :=
  (Pattern.readFrom (text.length + 1) (.start .standard) [] [] text).any fun height =>
    height ≤ Pattern.highest

end ExhaustionGuard.Text
