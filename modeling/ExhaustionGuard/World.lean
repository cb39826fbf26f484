import ExhaustionGuard.Effect
import ExhaustionGuard.Host
import ExhaustionGuard.System

/-!
# The world of an action

An action touches the watched machine, an output, and the system that the process runs on. The
output and the machine are known only by their operations; the system is known as a value.
-/

namespace ExhaustionGuard

/-- How a sink takes a write: how many of the bytes, and the error if it refuses the rest. -/
structure WriteReply where
  taken : Nat
  refusal : Option OutputError
  deriving DecidableEq, Repr

/-- The pieces in which texts are handed over while they are formatted. -/
structure Cutting where
  pieces : String → List Text.Bytes
  flatten_pieces : ∀ text, (pieces text).flatten = Text.encode text

/-- Every text is handed over at once. -/
def Cutting.whole : Cutting where
  pieces text := [Text.encode text]
  flatten_pieces _ := List.append_nil _

/-- An output with states `κ`, and how texts get to it. -/
structure Sink (κ : Type) where
  write : Text.Bytes → κ → WriteReply × κ
  flush : κ → Option OutputError × κ
  cutting : Cutting

/-- The states of the machine, the output and the system. -/
structure World (σ κ : Type) where
  host : σ
  sink : κ
  system : System

/-- How the machine and the output behave. -/
structure Surroundings (σ κ : Type) where
  host : Host σ
  sink : Sink κ

/-- A computation in the world. -/
abbrev WorldEffect (σ κ α : Type) := Effect (World σ κ) α

namespace Surroundings

variable {σ κ α : Type} (around : Surroundings σ κ)

/-- Writes bytes to the sink; nothing is asked of it for no bytes. -/
def writeBytes (bytes : Text.Bytes) : WorldEffect σ κ Unit := fun world =>
  if bytes.isEmpty then ⟨.ok (), world, []⟩
  else
    let (reply, sink) := around.sink.write bytes world.sink
    let world := { world with sink := sink }
    match reply.refusal with
    | none => ⟨.ok (), world, [.wrote bytes]⟩
    | some error =>
        ⟨.error (.failed (.output error)), world, [.wrote (bytes.take reply.taken)]⟩

/-- Writes the pieces of a text one after another, as long as none is refused. -/
def write (text : String) : WorldEffect σ κ Unit :=
  (around.sink.cutting.pieces text).forM around.writeBytes

def writeLine (text : String) : WorldEffect σ κ Unit :=
  around.write (text ++ "\n")

/-- Flushes the sink and tells whether it worked. -/
def tryFlush : WorldEffect σ κ (Option OutputError) := fun world =>
  let (refusal, sink) := around.sink.flush world.sink
  ⟨.ok refusal, { world with sink := sink }, [.flushed refusal.isNone]⟩

/-- Flushes the sink. -/
def flush : WorldEffect σ κ Unit := do
  match ← around.tryFlush with
  | none => pure ()
  | some error => Effect.fail (.output error)

/-- Writes the blank line and the heading that start a section of the output. -/
def banner (title : String) : WorldEffect σ κ Unit := do
  around.writeLine ""
  around.writeLine (">>> " ++ title)

end Surroundings

namespace World

variable {σ κ α : Type}

/-- An operation of the host whose errors are looked at; a panic stops the computation. -/
def attempt (operation : HostM σ α) : WorldEffect σ κ (Except HostError α) := fun world =>
  let (ending, host) := operation.finish world.host
  let world := { world with host := host }
  match ending with
  | .ok value => ⟨.ok (.ok value), world, []⟩
  | .error (.failed error) => ⟨.ok (.error error), world, []⟩
  | .error (.panicked payload) => ⟨.error (.panicked payload), world, []⟩

/-- An operation of the host. -/
def ask (operation : HostM σ α) : WorldEffect σ κ α := do
  match ← attempt operation with
  | .ok value => pure value
  | .error error => Effect.fail (.host error)

/-- Sends a signal to the process itself. -/
def raise (signal : Signal) : WorldEffect σ κ Unit := fun world =>
  let refusal := world.system.refusal signal
  let event := Event.raised signal refusal
  match refusal with
  | none => ⟨.ok (), world, [event]⟩
  | some errno => ⟨.error (.failed (.signal errno)), world, [event]⟩

/-- Makes a directory and the directories above it that are missing. -/
def makeDirectory (steps : List Path.Step) : WorldEffect σ κ Unit := fun world =>
  let made := world.system.makeDirectories world.system.tree steps
  let world := { world with system := { world.system with tree := made.tree } }
  let events := made.added.map Event.madeDirectory
  match made.result with
  | .ok () => ⟨.ok (), world, events⟩
  | .error error => ⟨.error (.failed (.output (.path error))), world, events⟩

end World

end ExhaustionGuard
