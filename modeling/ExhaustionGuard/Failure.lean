import ExhaustionGuard.Text.Decimal

/-!
# What can go wrong

Failures are causes; each has one wording. A panic is no failure of an operation but the end of
the computation that raised it, with a payload that need not be a text.
-/

namespace ExhaustionGuard

/-- The text of an error of the tool interface: its name and number, or its number alone. -/
def toolErrorName? : Nat → Option String
  | 0 => some "JVMTI_ERROR_NONE"
  | 20 => some "JVMTI_ERROR_INVALID_OBJECT"
  | 21 => some "JVMTI_ERROR_INVALID_CLASS"
  | 98 => some "JVMTI_ERROR_NOT_AVAILABLE"
  | 99 => some "JVMTI_ERROR_MUST_POSSESS_CAPABILITY"
  | 100 => some "JVMTI_ERROR_NULL_POINTER"
  | 102 => some "JVMTI_ERROR_INVALID_EVENT_TYPE"
  | 103 => some "JVMTI_ERROR_ILLEGAL_ARGUMENT"
  | 110 => some "JVMTI_ERROR_OUT_OF_MEMORY"
  | 111 => some "JVMTI_ERROR_ACCESS_DENIED"
  | 112 => some "JVMTI_ERROR_WRONG_PHASE"
  | 113 => some "JVMTI_ERROR_INTERNAL"
  | 115 => some "JVMTI_ERROR_UNATTACHED_THREAD"
  | 116 => some "JVMTI_ERROR_INVALID_ENVIRONMENT"
  | _ => none

/-- An error code of the tool interface, an unsigned 32-bit word. -/
structure ToolError where
  code : UInt32
  deriving DecidableEq, Repr

namespace ToolError

/-- Nothing went wrong. -/
def success : ToolError := ⟨0⟩

/-- The interface function is not there. -/
def notAvailable : ToolError := ⟨98⟩

/-- A pointer that should lead somewhere is null. -/
def nullPointer : ToolError := ⟨100⟩

/-- The name of a code that has one. -/
def name? (error : ToolError) : Option String :=
  toolErrorName? error.code.toNat

/-- The error in words. -/
def message (error : ToolError) : String :=
  match error.name? with
  | some name => s!"{name} ({error.code.toNat})"
  | none => s!"JVMTI error {error.code.toNat}"

end ToolError

/-- What fails in a call into the Java machine. -/
inductive JavaFault where
  | classNotFound (name : String)
  | methodNotFound (name signature : String)
  | staticMethodNotFound (name signature : String)
  | threw (what : String)
  | returnedNull (what : String)
  | unreadablePoolName
  | noPathString
  | other (text : String)
  deriving DecidableEq, Repr

namespace JavaFault

/-- The fault in words. -/
def message : JavaFault → String
  | classNotFound name => s!"class {name} not found"
  | methodNotFound name signature => s!"method {name}{signature} not found"
  | staticMethodNotFound name signature => s!"static method {name}{signature} not found"
  | threw what => s!"{what} threw an exception"
  | returnedNull what => s!"{what} returned null"
  | unreadablePoolName => "pool name is not readable"
  | noPathString => "cannot create heap dump path string"
  | other text => text

end JavaFault

/-- Why an operation of the host failed. -/
inductive HostError where
  | tool (operation : String) (error : ToolError)
  | java (fault : JavaFault)
  | tagSpaceExhausted (classes : Nat)
  | walkAborted (reason : String)
  | unavailable (what : String)
  deriving DecidableEq, Repr

namespace HostError

/-- The error in words. -/
def message : HostError → String
  | tool operation error => s!"{operation} failed: {error.message}"
  | java fault => s!"JNI call failed: {fault.message}"
  | tagSpaceExhausted classes => s!"class tag space exhausted after {classes} classes"
  | walkAborted reason => s!"heap walk aborted: {reason}"
  | unavailable what => s!"host capability unavailable: {what}"

end HostError

/-- What a panicking computation leaves behind: a text, or something that is none. -/
inductive Payload where
  | text (text : String)
  | noText
  deriving DecidableEq, Repr

namespace Payload

def message : Payload → String
  | .text words => words
  | .noText => "unknown panic"

end Payload

/-- How an operation of the host ends when it yields no value. -/
inductive HostFault where
  | failed (error : HostError)
  | panicked (payload : Payload)
  deriving DecidableEq, Repr

/-- Why the system refuses to deliver a signal. -/
inductive Errno where
  | perm | srch | inval | again
  deriving DecidableEq, Repr

namespace Errno

/-- The name of the refusal. -/
def name : Errno → String
  | perm => "EPERM"
  | srch => "ESRCH"
  | inval => "EINVAL"
  | again => "EAGAIN"

/-- The refusal described. -/
def description : Errno → String
  | perm => "Operation not permitted"
  | srch => "No such process"
  | inval => "Invalid argument"
  | again => "Try again"

/-- The refusal in words. -/
def message (errno : Errno) : String :=
  s!"{errno.name}: {errno.description}"

/-- Every refusal. -/
def all : List Errno := [perm, srch, inval, again]

end Errno

/-- Why a directory could not be made. -/
inductive PathError where
  | notFound
  | alreadyThere
  | notDirectory
  | nameTooLong
  | nulInName
  /-- Whatever else the system may say. -/
  | other (text : String)
  deriving DecidableEq, Repr

namespace PathError

/-- The error in words. -/
def message : PathError → String
  | notFound => "No such file or directory (os error 2)"
  | alreadyThere => "File exists (os error 17)"
  | notDirectory => "Not a directory (os error 20)"
  | nameTooLong => "File name too long (os error 36)"
  | nulInName => "file name contained an unexpected NUL byte"
  | other text => text

end PathError

/-- Why output or the file system failed an action. -/
inductive OutputError where
  | sinkFull
  | flushRefused
  | badTemplate (template : String)
  | path (error : PathError)
  | other (text : String)
  deriving DecidableEq, Repr

namespace OutputError

/-- The error in words. -/
def message : OutputError → String
  | sinkFull => "sink full"
  | flushRefused => "flush refused"
  | badTemplate template => s!"invalid heap dump path template `{template}`"
  | .path error => error.message
  | .other text => text

end OutputError

inductive ActionError where
  | host (error : HostError)
  | output (error : OutputError)
  | signal (errno : Errno)
  | panicked (reason : String)
  deriving DecidableEq, Repr

namespace ActionError

/-- The error in words. -/
def message : ActionError → String
  | host error => s!"host error: {error.message}"
  | output error => s!"I/O error: {error.message}"
  | signal errno => s!"signal delivery failed: {errno.message}"
  | panicked reason => s!"action panicked: {reason}"

end ActionError

/-- Why a value does not suit its option. -/
inductive ValueFault where
  | number (error : Text.NumberError)
  | timeIsZero
  | noFlag
  | signalNumber
  | signalName
  deriving DecidableEq, Repr

namespace ValueFault

/-- The fault in words. -/
def message : ValueFault → String
  | number error => error.message
  | timeIsZero => "must be at least 1 second"
  | noFlag => "expected 0 or 1"
  | signalNumber => Errno.inval.message
  | signalName => "unknown signal name"

end ValueFault

/-- Why an option text is refused. -/
inductive OptionError where
  | malformed (piece : String)
  | invalidValue (key value : String) (fault : ValueFault)
  deriving DecidableEq, Repr

namespace OptionError

/-- The error in words. -/
def message : OptionError → String
  | malformed piece => s!"invalid option `{piece}`: expected key=value"
  | invalidValue key value fault =>
      s!"invalid value `{value}` for option `{key}`: {fault.message}"

end OptionError

/-- Why the agent could not be armed. -/
inductive AgentError where
  | options (error : OptionError)
  | host (error : HostError)
  | environment (code : Int)
  | alreadyArmed
  deriving DecidableEq, Repr

namespace AgentError

/-- The error in words. -/
def message : AgentError → String
  | options error => s!"configuration error: {error.message}"
  | host error => s!"host error: {error.message}"
  | environment code => s!"GetEnv for JVMTI failed with JNI error {code}"
  | alreadyArmed => "agent is already armed"

end AgentError

end ExhaustionGuard
