import ExhaustionGuard.Host
import ExhaustionGuard.Text.Lossy

/-!
# Java machines

A Java machine as its native interface shows it: the answers to calls on objects, and the answers
to the functions of the tool interface. What a machine answers may depend on everything that was
asked of it before, so answers come with the next state.
-/

namespace ExhaustionGuard.Jvm

/-- What a call on objects yields: an object, a method, a number, nothing, or characters. -/
inductive Shape where
  | object | method | number | nothing | chars
  deriving DecidableEq, Repr

/-- A reference as the machine sees it: null, deleted before, or to an object. -/
inductive Handle (Object : Type) where
  | null
  | stale
  | live (object : Object)

/-- An argument of a method. -/
inductive Argument (Object : Type) where
  | object (handle : Handle Object)
  | int (value : Int)
  | boolean (value : Bool)

/-- The calls on objects, by what they yield. -/
inductive Call (Object Method : Type) : Shape → Type where
  | findClass (name : String) : Call Object Method .object
  | newString (bytes : Text.Bytes) : Call Object Method .object
  | callObject (receiver : Handle Object) (method : Method) (arguments : List (Argument Object)) :
      Call Object Method .object
  | callStaticObject (cls : Handle Object) (method : Method)
      (arguments : List (Argument Object)) : Call Object Method .object
  | methodId (cls : Handle Object) (name signature : String) : Call Object Method .method
  | staticMethodId (cls : Handle Object) (name signature : String) : Call Object Method .method
  | callInt (receiver : Handle Object) (method : Method) : Call Object Method .number
  | callLong (receiver : Handle Object) (method : Method) : Call Object Method .number
  | callVoid (receiver : Handle Object) (method : Method) (arguments : List (Argument Object)) :
      Call Object Method .nothing
  | stringChars (string : Handle Object) : Call Object Method .chars

/-- The results of a shape; where there may be null, there may be none. -/
abbrev Result (Object Method : Type) : Shape → Type
  | .object => Option Object
  | .method => Option Method
  | .number => Int
  | .nothing => Unit
  | .chars => Option Text.Bytes

/-- The result of a call, and whether the call left an exception pending. -/
structure Reply (α : Type) where
  value : α
  raises : Bool

/-- The functions of the tool interface that a machine may lack. -/
inductive ToolFunction where
  | addCapabilities | setEventCallbacks | setEventNotificationMode | deallocate
  | getLoadedClasses | getClassSignature | setTag | followReferences
  deriving DecidableEq, Repr

namespace ToolFunction

def name : ToolFunction → String
  | addCapabilities => "AddCapabilities"
  | setEventCallbacks => "SetEventCallbacks"
  | setEventNotificationMode => "SetEventNotificationMode"
  | deallocate => "Deallocate"
  | getLoadedClasses => "GetLoadedClasses"
  | getClassSignature => "GetClassSignature"
  | setTag => "SetTag"
  | followReferences => "FollowReferences"

/-- Every function that a machine may lack. -/
def all : List ToolFunction :=
  [addCapabilities, setEventCallbacks, setEventNotificationMode, deallocate, getLoadedClasses,
    getClassSignature, setTag, followReferences]

end ToolFunction

/-- The calls of the tool interface that only say whether they worked. -/
inductive Command where
  | addCapabilities (canTagObjects : Bool)
  | setEventCallbacks (handlesExhaustion : Bool)
  | setEventNotificationMode (enable : Bool) (event : Nat) (oneThread : Bool)
  | setTag (cls : ClassId) (tag : Int)
  deriving DecidableEq, Repr

namespace Command

def function : Command → ToolFunction
  | addCapabilities _ => .addCapabilities
  | setEventCallbacks _ => .setEventCallbacks
  | setEventNotificationMode .. => .setEventNotificationMode
  | setTag .. => .setTag

end Command

/-- What a callback of a walk tells the machine to do. -/
inductive Reaction where
  | visitObjects | skip | abort
  deriving DecidableEq, Repr

/-- An object that a machine reports to the callback of a walk. The slot may be hidden, and the
data that belongs to the walk may be missing. -/
structure Report where
  classTag : Int
  size : Int
  slot : Option Int
  hasUserData : Bool
  deriving DecidableEq, Repr

/-- A walk as a machine carries it out: reports, each with what follows the possible reactions
and contents of the slot, and in the end a code. -/
inductive CallbackWalk (State : Type) where
  | returned (code : ToolError) (state : State)
  | reported (report : Report) (resume : Reaction → Option Int → CallbackWalk State)

/-- The answer to the request for a walk: it is refused, or begins. -/
inductive WalkReply (State : Type) where
  | refused (code : ToolError) (state : State)
  | begins (walk : CallbackWalk State)

/-- The answer to the question for the loaded classes: a code, how many there are said to be, and
a buffer with them unless it is null. -/
structure ClassList where
  code : ToolError
  count : Int
  buffer : Option (List ClassId)

/-- The answer to the question for a signature: a code, and a buffer unless it is null. -/
structure SignatureReply where
  code : ToolError
  buffer : Option Text.Bytes

/-- A Java machine. -/
structure Machine where
  State : Type
  Object : Type
  Method : Type
  /-- The answer to a call on objects. -/
  answer : {shape : Shape} → Call Object Method shape → State →
    Reply (Result Object Method shape) × State
  /-- Asks for the tool interface: a code, and whether an interface came with it. -/
  getEnvironment : State → (Int × Bool) × State
  /-- Whether a function of the tool interface is there. -/
  provides : ToolFunction → State → Bool
  /-- The code that a command ends with. -/
  command : Command → State → ToolError × State
  /-- The code that handing back a buffer ends with; the buffers are numbered in the order in which
  they were handed out. -/
  deallocate : Nat → State → ToolError × State
  loadedClasses : State → ClassList × State
  classSignature : ClassId → State → SignatureReply × State
  followReferences : State → WalkReply State

end ExhaustionGuard.Jvm
