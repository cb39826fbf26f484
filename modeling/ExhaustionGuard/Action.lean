import ExhaustionGuard.DumpPath
import ExhaustionGuard.Exhaustion
import ExhaustionGuard.Heap.Capture
import ExhaustionGuard.Heap.ClassName
import ExhaustionGuard.Heap.Report
import ExhaustionGuard.MemoryReport
import ExhaustionGuard.World

/-!
# Actions

What the agent does once a window fires: print a heap histogram, print memory pools, ask for a
thread dump, ask for a heap dump, and send the final signal. Actions of other kinds are given by
a name and a computation.
-/

namespace ExhaustionGuard

/-- Something to be done about an exhaustion event. -/
inductive Action (σ κ : Type) where
  /-- Prints so many classes; the counter numbers the captures made by this action. -/
  | heapHistogram (entries : Nat) (captures : Heap.Captures)
  | memoryPools
  /-- Waits so many milliseconds after asking for the dump. -/
  | threadDump (delay : Nat)
  | heapDump (template : String)
  | kill (signal : Signal)
  | custom (name : String) (act : Exhaustion → WorldEffect σ κ Unit)

namespace Action

variable {σ κ : Type} (around : Surroundings σ κ)

/-- The name under which an action is reported. -/
def name : Action σ κ → String
  | heapHistogram .. => "heap histogram"
  | memoryPools => "memory pools"
  | threadDump _ => "thread dump"
  | heapDump _ => "heap dump"
  | kill _ => "kill"
  | custom name _ => name

/-- The line between the two parts of a capture. -/
def taggedLine (tags : Heap.ClassTags) (captures : Heap.Captures) : LogLine :=
  ⟨.debug, .traversal, "tagged loaded classes", [.classes tags.size, .epoch captures.epoch]⟩

/-- Captures a histogram, and notes when the classes are tagged. -/
def captureHistogram (captures : Heap.Captures) : WorldEffect σ κ Heap.Histogram := do
  let tags ← World.ask (Heap.tagLoadedClasses around.host.heap)
  Effect.log (taggedLine tags captures)
  World.ask (Heap.countObjects around.host.heap tags (Heap.stampOf captures.epoch))

/-- Captures a histogram and prints its greatest classes. -/
def printHistogram (entries : Nat) (captures : Heap.Captures) : WorldEffect σ κ Unit := do
  let histogram ← captureHistogram around captures
  Effect.log ⟨.info, .histogram, "heap histogram captured", [.classes histogram.size]⟩
  let library := (← Effect.get).system.libraries.regex
  around.banner "Heap Histogram"
  around.write (histogram.report entries (Heap.className library)).table
  around.flush

/-- Asks all three questions about memory, even when one cannot be answered. -/
def queryMemory :
    WorldEffect σ κ (Except HostError (MemoryUsage × MemoryUsage × List PoolUsage)) := do
  Effect.emit (.queried .heap)
  let heap ← World.attempt around.host.memory.heapUsage
  Effect.emit (.queried .nonHeap)
  let nonHeap ← World.attempt around.host.memory.nonHeapUsage
  Effect.emit (.queried .pools)
  let pools ← World.attempt around.host.memory.pools
  pure do
    let heap ← heap
    let nonHeap ← nonHeap
    let pools ← pools
    pure (heap, nonHeap, pools)

/-- Prints memory usage and pools, unless the machine cannot start threads or a question could
not be answered. -/
def printMemory (event : Exhaustion) : WorldEffect σ κ Unit := do
  if event.isThreads then
    Effect.log ⟨.warn, .pools,
      "cannot dump memory pools since the JVM is unable to create a thread", []⟩
  else
    match ← queryMemory around with
    | .error error =>
        Effect.log ⟨.warn, .pools, "cannot query memory usage: " ++ error.message, []⟩
    | .ok (heap, nonHeap, pools) =>
        around.banner "Memory Pools"
        (MemoryReport.lines heap nonHeap pools).forM around.write
        around.flush

/-- Asks the machine for a thread dump by signal and gives it time to print one. -/
def askThreadDump (delay : Nat) : WorldEffect σ κ Unit := do
  around.banner "Thread Dump"
  around.flush
  World.raise .quit
  Effect.log ⟨.info, .threadDump, "waiting for thread dump", [.delay delay]⟩

/-- Asks the machine for a heap dump, unless it cannot start threads. The directory of the dump
is made if it is missing. -/
def askHeapDump (template : String) (event : Exhaustion) : WorldEffect σ κ Unit := do
  if event.isThreads then
    Effect.log ⟨.warn, .heapDump,
      "cannot create heap dump since the JVM is unable to create a thread", []⟩
  else
    let system := (← Effect.get).system
    match DumpPath.resolve system template system.now with
    | .error error => Effect.fail (.output error)
    | .ok path =>
        match Path.parentSteps? path with
        | some steps => World.makeDirectory steps
        | none => pure ()
        around.banner "Heap Dump"
        around.flush
        Effect.log ⟨.info, .heapDump, "dumping heap", [.path path]⟩
        Effect.emit (.dumpRequested path)
        World.ask (around.host.dumpHeap path)
        Effect.emit (.dumped path)
        around.writeLine ("Heap dump written to " ++ path)
        around.flush

/-- Flushes the output as far as it can be flushed, then sends the final signal. -/
def sendKill (signal : Signal) : WorldEffect σ κ Unit := do
  match ← around.tryFlush with
  | some error =>
      Effect.log ⟨.warn, .kill, "flushing output failed: " ++ error.message, []⟩
  | none => pure ()
  Effect.log ⟨.warn, .kill, "jvmkill is killing current process", []⟩
  World.raise signal

/-- Does what an action stands for. -/
def act (action : Action σ κ) (event : Exhaustion) : WorldEffect σ κ Unit :=
  match action with
  | heapHistogram entries captures => printHistogram around entries captures
  | memoryPools => printMemory around event
  | threadDump delay => askThreadDump around delay
  | heapDump template => askHeapDump around template event
  | kill signal => sendKill around signal
  | custom _ act => act event

/-- The action as it is after it was done: a histogram has counted its capture. -/
def afterwards : Action σ κ → Action σ κ
  | heapHistogram entries captures => heapHistogram entries captures.next
  | action => action

/-- An action that writes a line. -/
def say (text : String) : Action σ κ :=
  custom "say" fun _ => around.writeLine text

def failing (error : ActionError) : Action σ κ :=
  custom "fail" fun _ => Effect.fail error

def panicking (payload : Payload) : Action σ κ :=
  custom "panic" fun _ => Effect.stop (.panicked payload)

end Action

end ExhaustionGuard
