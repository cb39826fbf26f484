import ExhaustionGuard.Jvm.Session

/-!
# Calls as lines

The objects of a scripted machine, and how the calls of a session with it read as lines of text.
Each call also has a label, by which the rules of a script address it.
-/

namespace ExhaustionGuard.Jvm.Scripted

/-- The areas whose memory usage a machine knows. -/
inductive Area where
  | heap | nonHeap
  | pool (index : Nat)
  deriving DecidableEq, Repr

/-- The objects of a scripted machine. -/
inductive Item where
  | cls (name : String)
  | memoryBean
  | diagnosticBean
  | poolList
  | pool (index : Nat)
  | usage (area : Area)
  | poolName (index : Nat)
  /-- A string made of bytes in a call. -/
  | made (bytes : Text.Bytes)
  /-- A string that was there before. -/
  | given (bytes : Text.Bytes)
  deriving DecidableEq, Repr

abbrev MethodName := String

/-- Words with blanks between them. -/
def sentence (words : List String) : String :=
  String.intercalate " " words

namespace Area

def name : Area → String
  | heap => "heap"
  | nonHeap => "non-heap"
  | pool index => "pool" ++ toString index

end Area

namespace Item

/-- How an object reads in a line. -/
def name : Item → String
  | cls name => name
  | memoryBean => "MemoryMXBean"
  | diagnosticBean => "HotSpotDiagnosticMXBean"
  | poolList => "pools"
  | pool index => (Area.pool index).name
  | usage area => "usage-of-" ++ area.name
  | poolName index => "name-of-" ++ (Area.pool index).name
  | made bytes => "\"" ++ Text.decodeLossy bytes ++ "\""
  | given _ => "text"

end Item

/-- How a reference reads in a line. -/
def handleName : Handle Item → String
  | .null => "null"
  | .stale => "dead"
  | .live item => item.name

def argumentName : Argument Item → String
  | .object handle => handleName handle
  | .int value => toString value
  | .boolean value => if value then "1" else "0"

def callLine {shape : Shape} : Call Item MethodName shape → String
  | .findClass name => sentence ["FindClass", name]
  | .newString bytes => sentence ["NewStringUTF", (Item.made bytes).name]
  | .callObject receiver method arguments =>
      sentence (["CallObjectMethod", handleName receiver, method] ++ arguments.map argumentName)
  | .callStaticObject cls method arguments =>
      sentence (["CallStaticObjectMethod", handleName cls, method] ++ arguments.map argumentName)
  | .methodId cls name signature => sentence ["GetMethodID", handleName cls, name, signature]
  | .staticMethodId cls name signature =>
      sentence ["GetStaticMethodID", handleName cls, name, signature]
  | .callInt receiver method => sentence ["CallIntMethod", handleName receiver, method]
  | .callLong receiver method => sentence ["CallLongMethod", handleName receiver, method]
  | .callVoid receiver method arguments =>
      sentence (["CallVoidMethod", handleName receiver, method] ++ arguments.map argumentName)
  | .stringChars string => sentence ["GetStringUTFChars", handleName string]

/-- Whether a reference leads to a pool. -/
def isPool : Handle Item → Bool
  | .live (.pool _) => true
  | _ => false

/-- The label of a call on objects: its line, less what tells apart calls of the same kind. -/
def callLabel {shape : Shape} : Call Item MethodName shape → String
  | .newString _ => "NewStringUTF"
  | .callObject receiver method arguments =>
      if isPool receiver then callLine (.callObject receiver method arguments)
      else sentence ["CallObjectMethod", method]
  | .callStaticObject _ method _ => sentence ["CallStaticObjectMethod", method]
  | .methodId _ name _ => sentence ["GetMethodID", name]
  | .staticMethodId _ name _ => sentence ["GetStaticMethodID", name]
  | .callVoid _ method _ => sentence ["CallVoidMethod", method]
  | .stringChars _ => "GetStringUTFChars"
  | call => callLine call

def truth (value : Bool) : String :=
  if value then "true" else "false"

def callbackTableSize : Nat := 296

def commandLine (command : Command) : String :=
  let name := command.function.name
  match command with
  | .addCapabilities canTagObjects => sentence [name, "can_tag_objects=" ++ truth canTagObjects]
  | .setEventCallbacks handlesExhaustion =>
      sentence [name, truth handlesExhaustion, toString callbackTableSize]
  | .setEventNotificationMode enable event oneThread =>
      sentence [name, if enable then "1" else "0", toString event,
        if oneThread then "one" else "all"]
  | .setTag cls tag => sentence [name, toString cls, toString tag]

def toolLine : ToolCall → String
  | .getEnvironment => "GetEnv 30010200"
  | .command command => commandLine command
  | .getLoadedClasses => ToolFunction.getLoadedClasses.name
  | .getClassSignature cls => sentence [ToolFunction.getClassSignature.name, toString cls]
  | .followReferences => sentence [ToolFunction.followReferences.name, "0", "null", "null"]

/-- The word that a callback returns for a reaction. -/
def reactionWord : Reaction → String
  | .visitObjects => "0x100"
  | .skip => "0x0"
  | .abort => "0x8000"

/-- The line of an event, if it shows. -/
def eventLine? : SessionEvent Item MethodName → Option String
  | .called _ call _ => some (callLine call)
  | .described => some "ExceptionDescribe"
  | .cleared => some "ExceptionClear"
  | .tool call => some (toolLine call)
  | .walked reactions => some ("visits " ++ sentence (reactions.map reactionWord))
  | _ => none

end ExhaustionGuard.Jvm.Scripted
