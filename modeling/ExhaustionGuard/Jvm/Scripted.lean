import ExhaustionGuard.Heap.Graph
import ExhaustionGuard.Jvm.Scripted.Line

/-!
# Scripted machines

A Java machine whose heap, beans and pools are given, with a list of rules that disturb single
calls. Without a rule every call ends well, except that unknown classes are not found. The machine
remembers the labels of all calls, since a rule may ask for one occurrence of a label only.
-/

namespace ExhaustionGuard.Jvm.Scripted

/-- What a rule does to a call. -/
inductive Disturbance where
  /-- The call yields null, or a null buffer, or no interface. -/
  | null
  /-- The call yields null and leaves an exception pending. -/
  | throws
  /-- The call yields what it would, and leaves an exception pending. -/
  | throwsWithValue
  /-- The call ends with a code at once. -/
  | code (code : Int)
  /-- The number of classes comes out negative. -/
  | negativeCount
  /-- A walk ends with a code after so many callbacks. -/
  | stopsAfter (callbacks : Nat) (code : Int)
  /-- Callbacks do not get the data of their walk. -/
  | losesUserData
  /-- A walk goes on after a callback aborted it. -/
  | ignoresAborts
  deriving DecidableEq, Repr

/-- A rule for calls with a label, or for one of them, counted from one. -/
structure Rule where
  label : String
  occurrence : Option Nat
  disturbance : Disturbance
  deriving DecidableEq, Repr

structure Pool where
  name : Option Text.Bytes
  usage : Option MemoryUsage
  deriving DecidableEq, Repr

/-- A scripted machine with the labels of the calls made so far, the latest first. -/
structure Script where
  graph : Heap.Graph
  heapUsage : Option MemoryUsage
  nonHeapUsage : Option MemoryUsage
  pools : List (Option Pool)
  /-- The size that the list of pools claims to have, if it is not the true one. -/
  claimedSize : Option Int
  missing : List ToolFunction
  rules : List Rule
  heard : List String
  deriving DecidableEq, Repr

namespace Script

/-- The script after a call with a label, and the disturbance of the call. -/
def hear (script : Script) (label : String) : Option Disturbance × Script :=
  let heard := label :: script.heard
  let rule := script.rules.find? fun rule =>
    rule.label == label &&
      (rule.occurrence == none || rule.occurrence == some (heard.count label))
  (rule.map Rule.disturbance, { script with heard := heard })

def pool? (script : Script) (index : Nat) : Option Pool :=
  (script.pools[index]?).join

/-- The usage of an area, if it is known. -/
def usage? (script : Script) : Area → Option MemoryUsage
  | .heap => script.heapUsage
  | .nonHeap => script.nonHeapUsage
  | .pool index => (script.pool? index).bind Pool.usage

end Script

/-- The names of the classes that can be found. -/
def knownClasses : List String :=
  ["java/lang/management/ManagementFactory", "java/lang/management/MemoryMXBean",
    "java/lang/management/MemoryPoolMXBean", "java/lang/management/MemoryUsage",
    "com/sun/management/HotSpotDiagnosticMXBean", "java/util/List"]

/-- The usage object of an area, if the usage is known. -/
def usageItem (script : Script) (area : Area) : Option Item :=
  (script.usage? area).map fun _ => .usage area

/-- The pool at an index of the list, if there is one. -/
def poolItem (script : Script) (arguments : List (Argument Item)) : Option Item :=
  match arguments with
  | [.int (.ofNat index)] => (script.pool? index).map fun _ => .pool index
  | _ => none

def objectOf (script : Script) (receiver : Handle Item) (method : MethodName)
    (arguments : List (Argument Item)) : Option Item :=
  match receiver, method with
  | .live .memoryBean, "getHeapMemoryUsage" => usageItem script .heap
  | .live .memoryBean, "getNonHeapMemoryUsage" => usageItem script .nonHeap
  | .live .poolList, "get" => poolItem script arguments
  | .live (.pool index), "getName" =>
      ((script.pool? index).bind Pool.name).map fun _ => .poolName index
  | .live (.pool index), "getUsage" => usageItem script (.pool index)
  | _, _ => none

def staticObjectOf : MethodName → Option Item
  | "getMemoryMXBean" => some .memoryBean
  | "getMemoryPoolMXBeans" => some .poolList
  | "getPlatformMXBean" => some .diagnosticBean
  | _ => none

def numberOf (script : Script) (receiver : Handle Item) (method : MethodName) : Int :=
  match receiver, method with
  | .live .poolList, "size" => script.claimedSize.getD script.pools.length
  | .live (.usage area), getter =>
      match script.usage? area, getter with
      | some usage, "getInit" => usage.initial
      | some usage, "getUsed" => usage.used
      | some usage, "getCommitted" => usage.committed
      | some usage, "getMax" => usage.maximum
      | _, _ => 0
  | _, _ => 0

/-- The bytes of a string. -/
def bytesOf (script : Script) : Handle Item → Option Text.Bytes
  | .live (.made bytes) => some bytes
  | .live (.given bytes) => some bytes
  | .live (.poolName index) => (script.pool? index).bind Pool.name
  | _ => none

/-- What a call on objects yields without a disturbance. -/
def undisturbed (script : Script) {shape : Shape} :
    Call Item MethodName shape → Reply (Result Item MethodName shape)
  | .findClass name =>
      if knownClasses.contains name then ⟨some (.cls name), false⟩ else ⟨none, true⟩
  | .newString bytes => ⟨some (.made bytes), false⟩
  | .callObject receiver method arguments => ⟨objectOf script receiver method arguments, false⟩
  | .callStaticObject _ method _ => ⟨staticObjectOf method, false⟩
  | .methodId _ name _ => ⟨some name, false⟩
  | .staticMethodId _ name _ => ⟨some name, false⟩
  | .callInt receiver method => ⟨numberOf script receiver method, false⟩
  | .callLong receiver method => ⟨numberOf script receiver method, false⟩
  | .callVoid _ _ _ => ⟨(), false⟩
  | .stringChars string => ⟨bytesOf script string, false⟩

/-- Null, zero or nothing, as the shape has it. -/
def emptyResult : (shape : Shape) → Result Item MethodName shape
  | .object => none
  | .method => none
  | .number => (0 : Int)
  | .nothing => ()
  | .chars => none

def answer {shape : Shape} (call : Call Item MethodName shape) (script : Script) :
    Reply (Result Item MethodName shape) × Script :=
  let (disturbance, next) := script.hear (callLabel call)
  let usual := undisturbed script call
  let reply := match disturbance with
    | some .null => ⟨emptyResult shape, false⟩
    | some .throws => ⟨emptyResult shape, true⟩
    | some .throwsWithValue => ⟨usual.value, true⟩
    | _ => usual
  (reply, next)

/-- A number as a code of the tool interface. -/
def toolCode (code : Int) : ToolError := ⟨UInt32.ofInt code⟩

/-- The answer to the request for the tool interface. -/
def getEnvironment (script : Script) : (Int × Bool) × Script :=
  let (disturbance, next) := script.hear "GetEnv"
  match disturbance with
  | some (.code code) => ((code, false), next)
  | some .null => ((0, false), next)
  | _ => ((0, true), next)

/-- What a command does without a disturbance. -/
def carryOut (script : Script) : Command → ToolError × Script
  | .setTag cls tag =>
      if cls < script.graph.signatures.size then
        (.success, { script with graph := script.graph.setClassTag cls tag })
      else (toolCode 20, script)
  | _ => (.success, script)

/-- The answer to a command. -/
def command (command : Command) (script : Script) : ToolError × Script :=
  let (disturbance, next) := script.hear command.function.name
  match disturbance with
  | some (.code code) => (toolCode code, next)
  | _ => carryOut next command

/-- The answer to a buffer that is handed back. -/
def deallocate (_ : BufferId) (script : Script) : ToolError × Script :=
  let (disturbance, next) := script.hear ToolFunction.deallocate.name
  match disturbance with
  | some (.code code) => (toolCode code, next)
  | _ => (.success, next)

/-- The answer to the question for the loaded classes. -/
def loadedClasses (script : Script) : ClassList × Script :=
  let (disturbance, next) := script.hear ToolFunction.getLoadedClasses.name
  let count := script.graph.signatures.size
  let reply : ClassList := match disturbance with
    | some (.code code) => ⟨toolCode code, 0, none⟩
    | some .null => ⟨.success, count, none⟩
    | some .negativeCount => ⟨.success, -1, some (List.range count)⟩
    | _ => ⟨.success, count, some (List.range count)⟩
  (reply, next)

/-- The answer to the question for a signature. -/
def classSignature (cls : ClassId) (script : Script) : SignatureReply × Script :=
  let (disturbance, next) := script.hear ToolFunction.getClassSignature.name
  let reply : SignatureReply := match disturbance with
    | some (.code code) => ⟨toolCode code, none⟩
    | some .null => ⟨.success, none⟩
    | _ =>
        match script.graph.signatures[cls]? with
        | some signature => ⟨.success, some signature⟩
        | none => ⟨toolCode 21, none⟩
  (reply, next)

/-- How a scripted walk departs from a plain one. -/
structure Manner where
  /-- After how many callbacks the walk ends, and with which code. -/
  stop : Option (Nat × ToolError)
  hasUserData : Bool
  ignoresAborts : Bool

/-- The manner of a walk under a disturbance. -/
def mannerOf : Option Disturbance → Manner
  | some (.stopsAfter callbacks code) => ⟨some (callbacks, toolCode code), true, false⟩
  | some .losesUserData => ⟨none, false, false⟩
  | some .ignoresAborts => ⟨none, true, true⟩
  | _ => ⟨none, true, false⟩

def reportOf (manner : Manner) (graph : Heap.Graph) (object : Nat) : Report :=
  let reached := graph.reached object
  let slot := if graph.hidesSlot object then none else some reached.slot
  ⟨reached.classTag, reached.size, slot, manner.hasUserData⟩

/-- A graph after a callback has left something in the slot of an object. -/
def withSlot (script : Script) (object : Nat) : Option Int → Script
  | some tag => { script with graph := script.graph.setSlot object tag }
  | none => script

/-- A walk with objects still to be reported on a stack. -/
def walkFrom (manner : Manner) : Nat → Nat → List Nat → Script → CallbackWalk Script
  | 0, _, _, script => .returned .success script
  | fuel + 1, made, stack, script =>
      match manner.stop.filter fun stop => stop.1 == made with
      | some stop => .returned stop.2 script
      | none =>
          match stack with
          | [] => .returned .success script
          | object :: rest =>
              .reported (reportOf manner script.graph object) fun reaction slot =>
                let next := withSlot script object slot
                match reaction with
                | .visitObjects =>
                    walkFrom manner fuel (made + 1) (script.graph.references object ++ rest) next
                | .skip => walkFrom manner fuel (made + 1) rest next
                | .abort =>
                    if manner.ignoresAborts then walkFrom manner fuel (made + 1) rest next
                    else .returned .success next

/-- The answer to the request for a walk. -/
def followReferences (script : Script) : WalkReply Script :=
  let (disturbance, next) := script.hear ToolFunction.followReferences.name
  match disturbance with
  | some (.code code) => .refused (toolCode code) next
  | _ =>
      .begins (walkFrom (mannerOf disturbance) (next.graph.patience + 1) 0 next.graph.roots next)

def machine : Machine where
  State := Script
  Object := Item
  Method := MethodName
  answer := answer
  getEnvironment := getEnvironment
  provides := fun function script => !script.missing.contains function
  command := command
  deallocate := deallocate
  loadedClasses := loadedClasses
  classSignature := classSignature
  followReferences := followReferences

end ExhaustionGuard.Jvm.Scripted
