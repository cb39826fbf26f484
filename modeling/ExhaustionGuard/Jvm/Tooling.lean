import ExhaustionGuard.Jvm.Session

/-!
# The tool interface

Commands, class lists, signatures and walks through the tool interface of a Java machine. A
function that the machine lacks is never called. Every buffer that the machine hands out goes back
to it as soon as its contents are copied, and a walk protects the machine from a visitor that
panics.
-/

namespace ExhaustionGuard.Jvm.Tooling

variable {J : Machine}

/-- A computation with the tool interface. -/
abbrev ToolM (J : Machine) (α : Type) := ExceptT ToolError (SessionM J) α

/-- How a call ends that only says by a code whether it worked. -/
def ending (code : ToolError) : Except ToolError Unit :=
  if code = .success then .ok () else .error code

/-- Calls a function unless the machine lacks it. -/
def whenProvided {α : Type} (function : ToolFunction) (use : ToolM J α) : ToolM J α :=
  ExceptT.mk fun session =>
    if J.provides function session.state then use.run session
    else (.error .notAvailable, session)

/-- Carries out a command. -/
def command (command : Command) : ToolM J Unit :=
  whenProvided command.function <| ExceptT.mk fun session =>
    let (code, state) := J.command command session.state
    let next : Session J := { session with state := state }
    (ending code, next.note (.tool (.command command)))

/-- A buffer that the machine handed out, with its contents. -/
structure Held (α : Type) where
  buffer : BufferId
  contents : α

/-- Hands a buffer back to the machine; there is nothing to do for a null pointer. -/
def deallocate : Option BufferId → ToolM J Unit
  | none => pure ()
  | some buffer =>
      whenProvided .deallocate <| ExceptT.mk fun session =>
        let (code, state) := J.deallocate buffer session.state
        let next : Session J := { session with state := state }
        (ending code, next.returnBuffer buffer (code == .success))

/-- Takes what a call hands out. A call that failed hands out nothing. -/
def receive {α : Type} (call : ToolCall) (code : ToolError) (contents : Option α) :
    ToolM J (Option (Held α)) :=
  ExceptT.mk fun session =>
    let called := session.note (.tool call)
    if code = .success then
      match contents with
      | none => (.ok none, called)
      | some contents => (.ok (some ⟨called.buffers.length, contents⟩), called.addBuffer)
    else (.error code, called)

/-- Copies the contents of a buffer. -/
def copy {α : Type} (held : Held α) : ToolM J α :=
  ExceptT.mk fun session => (.ok held.contents, session.note (.read held.buffer))

/-- How many classes are said to be loaded, and the buffer that lists them. -/
def listClasses : ToolM J (Int × Option (Held (List ClassId))) :=
  whenProvided .getLoadedClasses <| ExceptT.mk fun session =>
    let (reply, state) := J.loadedClasses session.state
    let received := receive .getLoadedClasses reply.code reply.buffer
    (received.map fun held => (reply.count, held)).run { session with state := state }

/-- The loaded classes; none if there is no buffer or their number is not positive. -/
def loadedClasses : ToolM J (List ClassId) := do
  let (count, held) ← listClasses
  match held with
  | none => pure []
  | some held =>
      if count ≤ 0 then
        deallocate (some held.buffer)
        pure []
      else
        let classes ← copy held
        deallocate (some held.buffer)
        pure (classes.take count.toNat)

def signatureBuffer (cls : ClassId) : ToolM J (Option (Held Text.Bytes)) :=
  whenProvided .getClassSignature <| ExceptT.mk fun session =>
    let (reply, state) := J.classSignature cls session.state
    (receive (.getClassSignature cls) reply.code reply.buffer).run { session with state := state }

def classSignature (cls : ClassId) : ToolM J String := do
  match ← signatureBuffer cls with
  | none => throw .nullPointer
  | some held =>
      let signature ← copy held
      deallocate (some held.buffer)
      pure (Text.decodeCString signature)

/-- Asks the machine for the tool interface. It may refuse with a code, and it may answer that all
is well without an interface. -/
def newEnvironment : SessionM J (Except Int Unit) := fun session =>
  let ((code, comes), state) := J.getEnvironment session.state
  let next : Session J := { session with state := state }
  let result := if code ≠ 0 then .error code else if comes then .ok () else .error (-1)
  (result, next.note (.tool .getEnvironment))

/-- How a walk ends: a visitor that panicked outweighs the code of the machine. -/
def walkEnding (panicked : Bool) (code : ToolError) : Except HostFault Unit :=
  if panicked then .error (.failed (.walkAborted "heap visitor panicked"))
  else if code = .success then .ok ()
  else .error (.failed (.tool "FollowReferences" code))

def reactionTo : Heap.Answer → Reaction
  | .descend => .visitObjects
  | .prune => .skip
  | .panicked _ => .abort

/-- Whether a visitor panicked. -/
def isPanic : Heap.Answer → Bool
  | .panicked _ => true
  | _ => false

/-- A walk of the machine as a walk of the host, with the reactions made so far. An object without
a slot is not shown to the visitor, and nothing is once the visitor panicked. -/
def visible (session : Session J) :
    Bool → List Reaction → CallbackWalk J.State → Heap.Walk (Session J)
  | panicked, reactions, .returned code state =>
      let next : Session J := { session with state := state }
      .ended (walkEnding panicked code) (next.note (.walked reactions))
  | panicked, reactions, .reported report resume =>
      match report.slot, report.hasUserData, panicked with
      | some slot, true, false =>
          .reached ⟨report.classTag, report.size, slot⟩ fun response =>
            let reaction := reactionTo response.answer
            visible session (isPanic response.answer) (reactions ++ [reaction])
              (resume reaction (some response.slot))
      | some slot, true, true =>
          visible session true (reactions ++ [.abort]) (resume .abort (some slot))
      | slot, _, _ =>
          visible session panicked (reactions ++ [.visitObjects]) (resume .visitObjects slot)

def followReferences (session : Session J) : Heap.Walk (Session J) :=
  if J.provides .followReferences session.state then
    let called := session.note (.tool .followReferences)
    match J.followReferences session.state with
    | .refused code state =>
        let next : Session J := { called with state := state }
        .ended (walkEnding false code) next
    | .begins walk => visible called false [] walk
  else .ended (walkEnding false .notAvailable) session

/-- A computation with the tool interface as an operation of the host. -/
def named {α : Type} (operation : String) (use : ToolM J α) : HostM (Session J) α :=
  ExceptT.mk do
    match ← use.run with
    | .ok value => pure (.ok value)
    | .error error => pure (.error (.failed (.tool operation error)))

/-- The heap of a machine that lets objects be tagged. -/
def heap : HeapHost (Session J) where
  loadedClasses := named "GetLoadedClasses" loadedClasses
  classSignature := fun cls => named "GetClassSignature" (classSignature cls)
  setClassTag := fun cls tag => named "SetTag" (command (.setTag cls tag))
  followReferences := followReferences

end ExhaustionGuard.Jvm.Tooling
