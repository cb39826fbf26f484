import ExhaustionGuard.Pipeline
import ExhaustionGuard.Window

/-!
# Controllers

A controller is told of every exhaustion event. It asks its heuristic once for each, and runs its
pipeline when the heuristic says so.
-/

namespace ExhaustionGuard

/-- What decides when a pipeline runs. -/
inductive Heuristic where
  | window (window : Window)
  /-- Decisions given beforehand, then never again. -/
  | script (decisions : List Bool)
  deriving DecidableEq, Repr

namespace Heuristic

/-- The line that a window logs about an event. -/
def windowLine (window : Window) (verdict : Verdict) : LogLine :=
  ⟨.info, .window,
    s!"ResourceExhausted! ({verdict.inside}/{window.limit})", []⟩

/-- The decision about an event, the lines logged for it, and the heuristic after it. -/
def decide (heuristic : Heuristic) (now : Nat) : Bool × List LogLine × Heuristic :=
  match heuristic with
  | window w =>
      let (verdict, next) := w.onEvent now
      (verdict.fires, [windowLine w verdict], window next)
  | script [] => (false, [], script [])
  | script (decision :: rest) => (decision, [], script rest)

end Heuristic

/-- A heuristic with the pipeline that it sets off. -/
structure Controller (σ κ : Type) where
  heuristic : Heuristic
  pipeline : Pipeline σ κ

namespace Controller

variable {σ κ : Type}

def ofOptions (options : Options) : Controller σ κ :=
  ⟨.window (Window.empty options.seconds options.count), Pipeline.ofOptions options⟩

/-- The line that tells of a new controller. -/
def armedLine (controller : Controller σ κ) : LogLine :=
  ⟨.debug, .controller, "controller armed", [.actions controller.pipeline.names]⟩

/-- The lines that say what an event is about. -/
def eventLines (event : Exhaustion) : List LogLine :=
  (if event.isJavaHeap then
    [⟨.info, .controller, "Resource exhaustion event: the JVM was unable to allocate memory " ++
      "from the heap.", []⟩] else []) ++
  (if event.isThreads then
    [⟨.info, .controller, "Resource exhaustion event: the JVM was unable to create a thread.",
      []⟩] else [])

/-- The lines for an event that does not set the pipeline off. -/
def quietLines (event : Exhaustion) : List LogLine :=
  if event.isOomError then
    [⟨.info, .controller, "The JVM is about to throw a java.lang.OutOfMemoryError.", []⟩]
  else []

/-- Handles an event at a clock reading; yields the controller as it is afterwards. -/
def notify (around : Surroundings σ κ) (controller : Controller σ κ) (now : Nat)
    (event : Exhaustion) : WorldEffect σ κ (Controller σ κ) := do
  Effect.logAll (eventLines event)
  let (fires, lines, heuristic) := controller.heuristic.decide now
  Effect.logAll lines
  if fires then
    controller.pipeline.runAll around event
    pure ⟨heuristic, controller.pipeline.afterwards⟩
  else
    Effect.logAll (quietLines event)
    pure ⟨heuristic, controller.pipeline⟩

end Controller

end ExhaustionGuard
