import ExhaustionGuard.Controller
import ExhaustionGuard.Jvm.Host
import ExhaustionGuard.Options.Reader

/-!
# Agents

An agent is armed at most once: it reads its options, obtains the tool interface of the machine,
sets it up, stores a controller and enables exhaustion events. Arming stops at the first failure;
what was done before it stays done. Until a controller is stored, events have no effect.
-/

namespace ExhaustionGuard

/-- What arming an agent gets done, in this order. -/
inductive ArmingStage where
  | optionsAccepted | environmentObtained | taggingAllowed | callbacksInstalled
  | controllerStored | eventsEnabled
  deriving DecidableEq, Repr

/-- An agent, with its controller if it is armed. -/
structure Agent (J : Jvm.Machine) (κ : Type) where
  controller : Option (Controller (Jvm.Session J) κ)

/-- An attempt to arm an agent: the agent and the session as they are, the stages passed and the
lines logged. -/
structure Arming (J : Jvm.Machine) (κ : Type) where
  agent : Agent J κ
  session : Jvm.Session J
  stages : List ArmingStage
  lines : List LogLine

/-- A part of an attempt to arm an agent. -/
abbrev ArmingM (J : Jvm.Machine) (κ α : Type) := ExceptT AgentError (StateM (Arming J κ)) α

def exhaustionEvent : Nat := 80

namespace Arming

variable {J : Jvm.Machine} {κ α : Type}

/-- Notes that a stage is passed. -/
def pass (stage : ArmingStage) : ArmingM J κ Unit :=
  modify fun arming => { arming with stages := arming.stages ++ [stage] }

def log (lines : List LogLine) : ArmingM J κ Unit :=
  modify fun arming => { arming with lines := arming.lines ++ lines }

def inSession (step : Jvm.SessionM J α) : ArmingM J κ α :=
  modifyGet fun arming =>
    let (value, session) := step arming.session
    (value, { arming with session := session })

/-- Carries out a command of the tool interface. -/
def command (command : Jvm.Command) : ArmingM J κ Unit := do
  match ← inSession (Jvm.Tooling.command command).run with
  | .ok () => pure ()
  | .error error => throw (.host (.tool command.function.name error))

/-- The line that tells which options were read. -/
def optionsLine (options : Options) : LogLine :=
  ⟨.debug, .agent, "parsed options", [.options options]⟩

/-- Reads the options, and logs what is odd about them and what they come to. -/
def readOptions (text : String) : ArmingM J κ Options := do
  let (result, lines) := Options.read text
  log lines
  match result with
  | .ok options =>
      log [optionsLine options]
      pure options
  | .error error => throw (.options error)

def obtainEnvironment : ArmingM J κ Unit := do
  match ← inSession Jvm.Tooling.newEnvironment with
  | .ok () => pure ()
  | .error code => throw (.environment code)

def armedLine (options : Options) : LogLine :=
  ⟨.info, .agent, s!"jvmkill armed: time={options.seconds}s count={options.count} " ++
    s!"signal={options.signal.name}", []⟩

/-- Arms an agent that is not armed yet. -/
def armWith (text : String) : ArmingM J κ Unit := do
  let options ← readOptions text
  pass .optionsAccepted
  obtainEnvironment
  pass .environmentObtained
  if options.heapHistogram then
    command (.addCapabilities true)
    pass .taggingAllowed
  command (.setEventCallbacks true)
  pass .callbacksInstalled
  let controller : Controller (Jvm.Session J) κ := .ofOptions options
  log [controller.armedLine]
  modify fun arming => { arming with agent := ⟨some controller⟩ }
  pass .controllerStored
  command (.setEventNotificationMode true exhaustionEvent false)
  pass .eventsEnabled
  log [armedLine options]

def arm (text : String) : ArmingM J κ Unit := do
  if (← get).agent.controller.isSome then throw .alreadyArmed
  else armWith text

end Arming

/-- An agent in the world that it acts in. -/
structure Deployment (J : Jvm.Machine) (κ : Type) where
  agent : Agent J κ
  world : World (Jvm.Session J) κ
  /-- The reading of the agent's clock. -/
  clock : Nat

namespace Agent

variable {J : Jvm.Machine} {κ : Type}

/-- An agent that is not armed. -/
def unarmed : Agent J κ := ⟨none⟩

/-- What the machine is told when the agent is loaded. -/
def loaded : Int := 0

/-- What the machine is told when the agent could not be loaded. -/
def notLoaded : Int := -1

/-- The line that reports a failed load. -/
def failureLine (error : AgentError) : LogLine :=
  ⟨.error, .agent, "jvmkill failed to load: " ++ error.message, []⟩

/-- The code and the closing lines of an attempt to arm an agent. -/
def outcome : Except AgentError Unit → Int × List LogLine
  | .ok () => (loaded, [])
  | .error error => (notLoaded, [failureLine error])

/-- Loads the agent with an option text. -/
def load (text : String) : Effect (Deployment J κ) Int := fun deployment =>
  let start : Arming J κ := ⟨deployment.agent, deployment.world.host, [], []⟩
  let (result, arming) := (Arming.arm text).run start
  let (code, closing) := outcome result
  ⟨.ok code,
    { deployment with
      agent := arming.agent
      world := { deployment.world with host := arming.session } },
    (arming.lines ++ closing).map .logged⟩

/-- The line that tells of an event, if the machine gives a description of it. -/
def noticeLines (event : Exhaustion) (description : Option Text.Bytes) : List LogLine :=
  match description with
  | some bytes =>
      [⟨.debug, .agent, "ResourceExhausted",
        [.description (Text.decodeCString bytes), .flags event]⟩]
  | none => []

/-- Handles an exhaustion event; an agent that is not armed does nothing. -/
def exhausted (sink : Sink κ) (event : Exhaustion) (description : Option Text.Bytes) :
    Effect (Deployment J κ) Unit := fun deployment =>
  match deployment.agent.controller with
  | none => ⟨.ok (), deployment, []⟩
  | some controller =>
      let run := (controller.notify ⟨Jvm.host, sink⟩ deployment.clock event).run deployment.world
      let next := match run.ending with
        | .ok controller => controller
        | .error _ => controller
      ⟨.ok (), { deployment with agent := ⟨some next⟩, world := run.state },
        (noticeLines event description).map .logged ++ run.trace⟩

end Agent

end ExhaustionGuard
