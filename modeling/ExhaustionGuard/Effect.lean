import ExhaustionGuard.Failure
import ExhaustionGuard.Log
import ExhaustionGuard.Signal
import ExhaustionGuard.Text.Lossy

/-!
# Effects

A computation changes a state, leaves a trace of events, and ends with a value or stops early,
with an error or with a panic. What an observer sees of a run (bytes, signals, log lines) is read
off its trace.
-/

namespace ExhaustionGuard

/-- The questions about memory usage. -/
inductive MemoryQuery where
  | heap | nonHeap | pools
  deriving DecidableEq, Repr

/-- What can be seen of a run. -/
inductive Event where
  | logged (line : LogLine)
  /-- Bytes that the sink took. -/
  | wrote (bytes : Text.Bytes)
  /-- A flush, and whether it succeeded. -/
  | flushed (succeeded : Bool)
  /-- A signal sent, with the refusal if it was refused. -/
  | raised (signal : Signal) (refusal : Option Errno)
  | queried (query : MemoryQuery)
  /-- A heap dump asked for. -/
  | dumpRequested (path : String)
  /-- A heap dump that succeeded. -/
  | dumped (path : String)
  | madeDirectory (place : List String)
  deriving DecidableEq, Repr

/-- How a computation stops early. -/
inductive Stop where
  | failed (error : ActionError)
  | panicked (payload : Payload)
  deriving DecidableEq, Repr

/-- What a computation did. -/
structure Run (ω α : Type) where
  ending : Except Stop α
  state : ω
  trace : List Event

/-- A computation on states `ω`. -/
def Effect (ω α : Type) : Type := ω → Run ω α

namespace Effect

variable {ω α β : Type}

def run (effect : Effect ω α) (state : ω) : Run ω α := effect state

/-- Ends with a value at once. -/
protected def pure (value : α) : Effect ω α := fun state => ⟨.ok value, state, []⟩

/-- Goes on with the value of a computation, unless it stops. -/
protected def bind (effect : Effect ω α) (next : α → Effect ω β) : Effect ω β := fun state =>
  let first := effect state
  match first.ending with
  | .error stop => ⟨.error stop, first.state, first.trace⟩
  | .ok value =>
      let second := next value first.state
      ⟨second.ending, second.state, first.trace ++ second.trace⟩

instance : Monad (Effect ω) where
  pure := Effect.pure
  bind := Effect.bind

def stop (reason : Stop) : Effect ω α := fun state => ⟨.error reason, state, []⟩

def fail (error : ActionError) : Effect ω α := stop (.failed error)

/-- Leaves an event in the trace. -/
def emit (event : Event) : Effect ω Unit := fun state => ⟨.ok (), state, [event]⟩

/-- Leaves events in the trace. -/
def emitAll (events : List Event) : Effect ω Unit := fun state => ⟨.ok (), state, events⟩

def log (line : LogLine) : Effect ω Unit := emit (.logged line)

def get : Effect ω ω := fun state => ⟨.ok state, state, []⟩

def logAll (lines : List LogLine) : Effect ω Unit := emitAll (lines.map .logged)

@[simp]
theorem run_pure (value : α) (state : ω) :
    run (pure value) state = ⟨.ok value, state, []⟩ := rfl

theorem run_bind (effect : Effect ω α) (next : α → Effect ω β) (state : ω) :
    run (effect >>= next) state =
      match (run effect state).ending with
      | .error stop => ⟨.error stop, (run effect state).state, (run effect state).trace⟩
      | .ok value =>
          ⟨(run (next value) (run effect state).state).ending,
            (run (next value) (run effect state).state).state,
            (run effect state).trace ++ (run (next value) (run effect state).state).trace⟩ := rfl

end Effect

/-! ## Views of a trace -/

namespace Trace

def log (trace : List Event) : List LogLine :=
  trace.filterMap fun
    | .logged line => some line
    | _ => none

def bytes (trace : List Event) : Text.Bytes :=
  (trace.map fun
    | .wrote bytes => bytes
    | _ => []).flatten

def queries (trace : List Event) : List MemoryQuery :=
  trace.filterMap fun
    | .queried query => some query
    | _ => none

/-- The heap dumps that succeeded in a trace. -/
def dumps (trace : List Event) : List String :=
  trace.filterMap fun
    | .dumped path => some path
    | _ => none

/-- A signal with what had been flushed when it was raised. -/
structure Raised where
  signal : Signal
  flushed : Nat
  refusal : Option Errno
  deriving DecidableEq, Repr

/-- What a trace says about output while it is read from the left. -/
structure Progress where
  /-- Bytes written so far. -/
  written : Nat
  /-- Bytes written at the latest flush that succeeded. -/
  flushed : Nat
  raised : List Raised
  deriving DecidableEq, Repr

def Progress.step (progress : Progress) : Event → Progress
  | .wrote bytes => { progress with written := progress.written + bytes.length }
  | .flushed true => { progress with flushed := progress.written }
  | .raised signal refusal =>
      { progress with raised := progress.raised ++ [⟨signal, progress.flushed, refusal⟩] }
  | _ => progress

def progress (trace : List Event) : Progress :=
  trace.foldl Progress.step ⟨0, 0, []⟩

/-- The bytes that a trace has flushed at its end. -/
def flushed (trace : List Event) : Nat := (progress trace).flushed

def raised (trace : List Event) : List Raised := (progress trace).raised

end Trace

end ExhaustionGuard
