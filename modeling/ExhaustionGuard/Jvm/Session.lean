import ExhaustionGuard.Jvm.Machine

/-!
# Sessions with a Java machine

A session keeps account of a machine: which local references, characters and buffers it handed
out and what became of them, whether an exception is pending, and everything that was called.
-/

namespace ExhaustionGuard.Jvm

/-- A local reference, numbered in the order in which references are handed out. -/
abbrev Ref := Nat

/-- A buffer of the tool interface, numbered in the same way. -/
abbrev BufferId := Nat

/-- A reference with its object, and how often it was deleted. -/
structure RefEntry (Object : Type) where
  object : Object
  deletions : Nat

/-- How often a buffer was handed back, and whether it was taken back. -/
structure BufferEntry where
  returns : Nat
  freed : Bool
  deriving DecidableEq, Repr

inductive ToolCall where
  | getEnvironment
  | command (command : Command)
  | getLoadedClasses
  | getClassSignature (cls : ClassId)
  | followReferences
  deriving DecidableEq, Repr

/-- Everything that happens in a session. -/
inductive SessionEvent (Object Method : Type) where
  /-- A call on objects, and whether an exception was pending before it. -/
  | called (shape : Shape) (call : Call Object Method shape) (pending : Bool)
  | described
  | cleared
  | obtained (ref : Ref)
  | deleted (ref : Ref)
  | charsHeld (index : Nat)
  | charsReleased (index : Nat)
  | tool (call : ToolCall)
  | allocated (buffer : BufferId)
  | read (buffer : BufferId)
  | handedBack (buffer : BufferId)
  /-- The reactions of the callbacks of one walk, in order. -/
  | walked (reactions : List Reaction)

/-- The account of a machine. -/
structure Session (J : Machine) where
  state : J.State
  pending : Bool
  refs : List (RefEntry J.Object)
  /-- How often the characters of each string were released. -/
  chars : List Nat
  buffers : List BufferEntry
  trace : List (SessionEvent J.Object J.Method)

/-- A computation in a session. -/
abbrev SessionM (J : Machine) (α : Type) := StateM (Session J) α

namespace Session

variable {J : Machine}

/-- The session with a machine of which nothing was asked. -/
def start (state : J.State) : Session J := ⟨state, false, [], [], [], []⟩

def note (session : Session J) (event : SessionEvent J.Object J.Method) : Session J :=
  { session with trace := session.trace ++ [event] }

/-- A reference as the machine sees it. -/
def handle (session : Session J) (ref : Option Ref) : Handle J.Object :=
  match ref with
  | none => .null
  | some ref =>
      match session.refs[ref]? with
      | some entry => if entry.deletions = 0 then .live entry.object else .stale
      | none => .stale

/-- The session after a new reference to an object. -/
def addRef (session : Session J) (object : J.Object) : Session J :=
  let next : Session J := { session with refs := session.refs ++ [⟨object, 0⟩] }
  next.note (.obtained session.refs.length)

/-- The session after a reference was deleted once more. -/
def deleteRef (session : Session J) (ref : Ref) : Session J :=
  let next : Session J :=
    { session with
      refs := session.refs.modify ref fun entry => ⟨entry.object, entry.deletions + 1⟩ }
  next.note (.deleted ref)

/-- The session after the characters of a string were handed out. -/
def holdChars (session : Session J) : Session J :=
  let next : Session J := { session with chars := session.chars ++ [0] }
  next.note (.charsHeld session.chars.length)

/-- The session after characters were released once more. -/
def releaseChars (session : Session J) (index : Nat) : Session J :=
  let next : Session J := { session with chars := session.chars.modify index (· + 1) }
  next.note (.charsReleased index)

/-- The session after a new buffer. -/
def addBuffer (session : Session J) : Session J :=
  let next : Session J := { session with buffers := session.buffers ++ [⟨0, false⟩] }
  next.note (.allocated session.buffers.length)

/-- The session after a buffer was handed back; it is free if the machine took it. -/
def returnBuffer (session : Session J) (buffer : BufferId) (taken : Bool) : Session J :=
  let next : Session J :=
    { session with
      buffers := session.buffers.modify buffer fun entry =>
        ⟨entry.returns + 1, entry.freed || taken⟩ }
  next.note (.handedBack buffer)

/-- How many references were not deleted. -/
def liveRefs (session : Session J) : Nat :=
  session.refs.countP fun entry => entry.deletions == 0

/-- How many strings have characters that were not released. -/
def heldChars (session : Session J) : Nat :=
  session.chars.countP (· == 0)

/-- How many buffers were not freed. -/
def liveBuffers (session : Session J) : Nat :=
  session.buffers.countP fun entry => !entry.freed

/-- How often something was given back once too often, where each thing was so many times. -/
def beyondFirst (times : List Nat) : Nat :=
  times.foldr (fun count excess => count - 1 + excess) 0

/-- How often something was deleted, released or handed back once too often. -/
def excessReturns (session : Session J) : Nat :=
  beyondFirst (session.refs.map fun entry => entry.deletions) +
    beyondFirst session.chars +
    beyondFirst (session.buffers.map fun entry => if entry.freed then entry.returns else 0)

/-- Whether an event is a call on objects made while an exception was pending. -/
def isIllegal : SessionEvent J.Object J.Method → Bool
  | .called _ _ pending => pending
  | _ => false

/-- How many calls on objects were made while an exception was pending. -/
def illegalCalls (session : Session J) : Nat :=
  session.trace.countP isIllegal

end Session

namespace SessionM

variable {J : Machine}

def call {shape : Shape} (call : Session J → Call J.Object J.Method shape) :
    SessionM J (Result J.Object J.Method shape) := fun session =>
  let made := call session
  let (reply, state) := J.answer made session.state
  let next : Session J :=
    { session with state := state, pending := session.pending || reply.raises }
  (reply.value, next.note (.called shape made session.pending))

/-- Makes a call that yields an object; an object comes as a new reference. -/
def obtain (object : Session J → Call J.Object J.Method .object) : SessionM J (Option Ref) := do
  match ← call object with
  | none => pure none
  | some object =>
      modifyGet fun session => (some session.refs.length, session.addRef object)

/-- Deletes a reference that is not null. -/
def deleteRef (ref : Option Ref) : SessionM J Unit :=
  match ref with
  | none => pure ()
  | some ref => modify fun session => session.deleteRef ref

def exceptionCheck : SessionM J Bool := do
  pure (← get).pending

/-- Prints the pending exception. -/
def exceptionDescribe : SessionM J Unit :=
  modify fun session => session.note .described

/-- Forgets the pending exception. -/
def exceptionClear : SessionM J Unit :=
  modify fun session =>
    let next : Session J := { session with pending := false }
    next.note .cleared

/-- Prints and forgets a pending exception, and tells whether there was one. -/
def takeException : SessionM J Bool := do
  if ← exceptionCheck then
    exceptionDescribe
    exceptionClear
    pure true
  else pure false

/-- Looks up a class; a name with a NUL in it is never asked for. -/
def findClass (name : String) : SessionM J (Option Ref) :=
  if Text.hasNul name then pure none else obtain fun _ => .findClass name

/-- Looks up a method of a class. -/
def methodId (cls : Option Ref) (name signature : String) : SessionM J (Option J.Method) :=
  if Text.hasNul name || Text.hasNul signature then pure none
  else call fun session => .methodId (session.handle cls) name signature

/-- Looks up a static method of a class. -/
def staticMethodId (cls : Option Ref) (name signature : String) : SessionM J (Option J.Method) :=
  if Text.hasNul name || Text.hasNul signature then pure none
  else call fun session => .staticMethodId (session.handle cls) name signature

/-- Makes a Java string of a text; a text with a NUL in it is never handed over. -/
def newString (text : String) : SessionM J (Option Ref) :=
  if Text.hasNul text then pure none else obtain fun _ => .newString (Text.encode text)

/-- Reads the text of a Java string, if it is not null and the machine shows its characters. The
characters are released as soon as they are read. -/
def readString (string : Option Ref) : SessionM J (Option String) :=
  match string with
  | none => pure none
  | some _ => do
      match ← call fun session => .stringChars (session.handle string) with
      | none => pure none
      | some bytes =>
          modify fun session => session.holdChars.releaseChars session.chars.length
          pure (some (Text.decodeCString bytes))

end SessionM

end ExhaustionGuard.Jvm
