import ExhaustionGuard.Failure
import ExhaustionGuard.Log
import ExhaustionGuard.Options
import ExhaustionGuard.Text.Blank
import ExhaustionGuard.Text.Decimal

/-!
# Reading options

An option text is cut at its commas. Each part that is not blank is a piece `key=value`; it
stands for one setting, and the settings take effect from left to right. An empty value gives the
key back its standard setting. The leftmost bad piece is the error of the whole text, and unknown
keys are only reported.
-/

namespace ExhaustionGuard

/-- What one piece of an option text asks for. -/
inductive Setting where
  | seconds (value : Nat)
  | count (value : Nat)
  | heapHistogram (value : Bool)
  | histogramEntries (value : Nat)
  | memoryUsage (value : Bool)
  | threadDump (value : Bool)
  | heapDumpPath (value : Option String)
  | signal (value : Signal)
  | unknown (key : String)
  deriving DecidableEq, Repr

namespace Setting

/-- The options after a setting has taken effect. -/
def apply (options : Options) : Setting → Options
  | seconds value => { options with seconds := value }
  | count value => { options with count := value }
  | heapHistogram value => { options with heapHistogram := value }
  | histogramEntries value => { options with histogramEntries := value }
  | memoryUsage value => { options with memoryUsage := value }
  | threadDump value => { options with threadDump := value }
  | heapDumpPath value => { options with heapDumpPath := value }
  | signal value => { options with signal := value }
  | unknown _ => options

end Setting

namespace Options

/-- The greatest number that an option can hold. -/
def wordMax : Nat := 0xFFFFFFFFFFFFFFFF

/-- The pieces of an option text: its comma-separated parts, trimmed, without the blank ones. -/
def pieces (text : String) : List (List Char) :=
  ((Text.cut ',' text.toList).map Text.trim).filter fun piece => !piece.isEmpty

/-- The trimmed key and value of a piece, if it has an equals sign with a key before it. -/
def keyAndValue? (piece : List Char) : Option (List Char × List Char) :=
  match Text.cutOnce '=' piece with
  | none => none
  | some (key, value) =>
      let key := Text.trim key
      if key.isEmpty then none else some (key, Text.trim value)

def readNumber (value : List Char) : Except ValueFault Nat :=
  match Text.readNatural wordMax value with
  | .ok number => .ok number
  | .error error => .error (.number error)

/-- Reads a number of seconds, which may not be zero. -/
def readSeconds (value : List Char) : Except ValueFault Nat :=
  match readNumber value with
  | .ok 0 => .error .timeIsZero
  | result => result

def readFlag (value : List Char) : Except ValueFault Bool :=
  if value = ['0'] then .ok false
  else if value = ['1'] then .ok true
  else .error .noFlag

/-- The full name that a signal name stands for: upper case, `SIG` in front. -/
def fullSignalName (value : List Char) : List Char :=
  let upper := value.map Char.toUpper
  if ['S', 'I', 'G'].isPrefixOf upper then upper else ['S', 'I', 'G'] ++ upper

/-- Reads a signal by number or by name. -/
def readSignal (value : List Char) : Except ValueFault Signal :=
  match Text.readInt32 value with
  | .ok number =>
      match Signal.ofNumber? number with
      | some signal => .ok signal
      | none => .error .signalNumber
  | .error _ =>
      match Signal.ofName? (String.ofList (fullSignalName value)) with
      | some signal => .ok signal
      | none => .error .signalName

/-- The setting of a known key with a value that is not empty. -/
def settingOf (key : String) (value : List Char) : Except ValueFault Setting :=
  match key with
  | "time" => (readSeconds value).map .seconds
  | "count" => (readNumber value).map .count
  | "printHeapHistogram" => (readFlag value).map .heapHistogram
  | "heapHistogramMaxEntries" => (readNumber value).map .histogramEntries
  | "printMemoryUsage" => (readFlag value).map .memoryUsage
  | "printThreadDump" => (readFlag value).map .threadDump
  | "heapDumpPath" => .ok (.heapDumpPath (some (String.ofList value)))
  | "signal" => (readSignal value).map .signal
  | _ => .ok (.unknown key)

/-- The setting of a key with an empty value: the standard one. -/
def standardSetting (key : String) : Setting :=
  match key with
  | "time" => .seconds default.seconds
  | "count" => .count default.count
  | "printHeapHistogram" => .heapHistogram default.heapHistogram
  | "heapHistogramMaxEntries" => .histogramEntries default.histogramEntries
  | "printMemoryUsage" => .memoryUsage default.memoryUsage
  | "printThreadDump" => .threadDump default.threadDump
  | "heapDumpPath" => .heapDumpPath default.heapDumpPath
  | "signal" => .signal default.signal
  | _ => .unknown key

def readPiece (piece : List Char) : Except OptionError Setting :=
  match keyAndValue? piece with
  | none => .error (.malformed (String.ofList piece))
  | some (key, value) =>
      let key := String.ofList key
      if value.isEmpty then .ok (standardSetting key)
      else
        match settingOf key value with
        | .ok setting => .ok setting
        | .error fault => .error (.invalidValue key (String.ofList value) fault)

def unknownKeyLine (key : String) : LogLine :=
  ⟨.warn, .options, "ignoring unknown jvmkill option", [.option key]⟩

def reported : Setting → List LogLine
  | .unknown key => [unknownKeyLine key]
  | _ => []

/-- Reads pieces from left to right onto options, up to the first bad one. -/
def readPieces (options : Options) : List (List Char) → Except OptionError Options × List LogLine
  | [] => (.ok options, [])
  | piece :: rest =>
      match readPiece piece with
      | .error error => (.error error, [])
      | .ok setting =>
          let result := readPieces (setting.apply options) rest
          (result.1, reported setting ++ result.2)

/-- Reads an option text, with the lines that are logged meanwhile. -/
def read (text : String) : Except OptionError Options × List LogLine :=
  readPieces default (pieces text)

end Options

end ExhaustionGuard
