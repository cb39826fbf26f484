import ExhaustionGuard.Action
import ExhaustionGuard.Options

/-!
# Pipelines

A list of actions with a final signal. Every action runs, whatever became of those before it; the
failure of an action is logged and goes no further. The signal is kept outside of the list, so
nothing can come after it.
-/

namespace ExhaustionGuard

/-- Actions in order, and the signal that is sent after all of them. -/
structure Pipeline (σ κ : Type) where
  actions : List (Action σ κ)
  signal : Signal

namespace Pipeline

variable {σ κ : Type}

/-- How long the machine gets to print a thread dump, in milliseconds. -/
def threadDumpDelay : Nat := 5000

def ofOptions (options : Options) : Pipeline σ κ where
  actions :=
    (if options.heapHistogram then [.heapHistogram options.histogramEntries .none] else []) ++
    (if options.memoryUsage then [.memoryPools] else []) ++
    (if options.threadDump then [.threadDump threadDumpDelay] else []) ++
    (match options.heapDumpPath with
      | some template => [.heapDump template]
      | none => [])
  signal := options.signal

/-- The names of the actions in order, the final one included. -/
def names (pipeline : Pipeline σ κ) : List String :=
  pipeline.actions.map Action.name ++ [(Action.kill pipeline.signal : Action σ κ).name]

def errorOf : Stop → ActionError
  | .failed error => error
  | .panicked payload => .panicked payload.message

/-- The line that reports the failure of an action. -/
def failureLine (name : String) (stop : Stop) : LogLine :=
  ⟨.error, .action, name ++ " action failed: " ++ (errorOf stop).message, []⟩

/-- A computation that always ends; if it would stop, the reason is logged instead. -/
def guarded {ω : Type} (name : String) (effect : Effect ω Unit) : Effect ω Unit := fun state =>
  let run := effect state
  match run.ending with
  | .ok () => run
  | .error stop => ⟨.ok (), run.state, run.trace ++ [.logged (failureLine name stop)]⟩

/-- The line that announces an action. -/
def runningLine (name : String) : LogLine :=
  ⟨.debug, .action, "running action", [.action name]⟩

/-- Announces an action and does it without letting its failure through. -/
def runAction (around : Surroundings σ κ) (event : Exhaustion) (action : Action σ κ) :
    WorldEffect σ κ Unit := do
  Effect.log (runningLine action.name)
  guarded action.name (action.act around event)

/-- Does all actions in order, then sends the final signal. -/
def runAll (around : Surroundings σ κ) (pipeline : Pipeline σ κ) (event : Exhaustion) :
    WorldEffect σ κ Unit := do
  pipeline.actions.forM (runAction around event)
  runAction around event (.kill pipeline.signal)

def afterwards (pipeline : Pipeline σ κ) : Pipeline σ κ :=
  { pipeline with actions := pipeline.actions.map Action.afterwards }

end Pipeline

end ExhaustionGuard
