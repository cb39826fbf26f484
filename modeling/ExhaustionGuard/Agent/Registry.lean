import ExhaustionGuard.Agent

/-!
# The agent of a process

A process registers at most one agent for its lifetime. The machine enters the agent through three
entry points: a load, an unload and exhaustion events. Whatever the agent does there, the machine
gets an answer. A signal whose default is to end the process cuts short all that would follow it.
-/

namespace ExhaustionGuard

/-- The entry points of an agent with states `ω`. An agent need only say how it is loaded. -/
structure Hooks (ω : Type) where
  load : String → Effect ω Int
  unload : Effect ω Unit := pure ()
  exhausted : Exhaustion → Option Text.Bytes → Effect ω Unit := fun _ _ => pure ()

/-- The entry points of the agent of this library. -/
def Agent.hooks {J : Jvm.Machine} {κ : Type} (sink : Sink κ) : Hooks (Deployment J κ) where
  load := Agent.load
  exhausted := Agent.exhausted sink

/-- The entry points of an agent in a process with a log setting. A load starts with reading the
setting, and a panic there ends the load. -/
def Hooks.withLogSetting {ω : Type} (hooks : Hooks ω) (read : LogReader)
    (setting : Option String) : Hooks ω :=
  match read setting with
  | some _ => hooks
  | none => { hooks with load := fun _ => Effect.stop (.panicked .noText) }

/-- Where a process keeps its agent: whether it has one, and the state that the agent acts on. -/
structure Registry (ω : Type) where
  hasAgent : Bool
  state : ω

/-- The ways into an agent. -/
inductive Entry where
  /-- A load with the bytes of an option text, if there are any. -/
  | load (options : Option Text.Bytes)
  | unload
  /-- An exhaustion event with the bytes of a description, if there are any. -/
  | exhausted (event : Exhaustion) (description : Option Text.Bytes)
  deriving DecidableEq, Repr

namespace Registry

variable {ω α : Type}

/-- The registry of a process without an agent. -/
def start (state : ω) : Registry ω := ⟨false, state⟩

/-- Takes an agent, unless there is one already; tells whether it was taken. -/
def takeAgent (registry : Registry ω) : Bool × Registry ω :=
  (!registry.hasAgent, { registry with hasAgent := true })

/-- A computation of the agent as one of the registry. It always ends with a value: a panic goes no
further than the entry point. -/
def contained (fallback : α) (effect : Effect ω α) : Effect (Registry ω) α := fun registry =>
  let run := effect registry.state
  let value := match run.ending with
    | .ok value => value
    | .error _ => fallback
  ⟨.ok value, { registry with state := run.state }, run.trace⟩

/-- The text of options as they are handed over. -/
def optionText (options : Option Text.Bytes) : String :=
  match options with
  | none => ""
  | some bytes => Text.decodeCString bytes

/-- Loads the agent into the process. -/
def load (hooks : Hooks ω) (options : Option Text.Bytes) :
    Effect (Registry ω) Int := fun registry =>
  let (taken, next) := registry.takeAgent
  if taken then contained Agent.notLoaded (hooks.load (optionText options)) next
  else ⟨.ok Agent.notLoaded, next, []⟩

def entering (effect : Effect ω Unit) : Effect (Registry ω) Unit := fun registry =>
  if registry.hasAgent then contained () effect registry else ⟨.ok (), registry, []⟩

/-- Enters the process; a load yields a code. -/
def enter (hooks : Hooks ω) : Entry → Effect (Registry ω) (Option Int)
  | .load options => do
      let code ← load hooks options
      pure (some code)
  | .unload => do
      entering hooks.unload
      pure none
  | .exhausted event description => do
      entering (hooks.exhausted event description)
      pure none

end Registry

namespace Trace

/-- A trace up to the first signal that ends the process, with that signal. -/
def untilDeath : List Event → List Event × Option Signal
  | [] => ([], none)
  | .raised signal none :: rest =>
      if signal.endsProcess then ([.raised signal none], some signal)
      else
        let (before, death) := untilDeath rest
        (.raised signal none :: before, death)
  | event :: rest =>
      let (before, death) := untilDeath rest
      (event :: before, death)

def treeAfter (tree : Directory) (trace : List Event) : Directory :=
  trace.foldl (fun tree event =>
    match event with
    | .madeDirectory place => tree.insert place .directory
    | _ => tree) tree

def shownLog (shows : LogLine → Bool) (trace : List Event) : String :=
  String.join (((log trace).filter shows).map LogLine.render)

end Trace

end ExhaustionGuard
