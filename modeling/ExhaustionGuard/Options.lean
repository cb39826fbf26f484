import ExhaustionGuard.Signal
import ExhaustionGuard.Text.Shown

/-!
# Options

What the user of the agent can choose, with the values that hold when nothing is chosen.
-/

namespace ExhaustionGuard

/-- The settings of an agent. -/
structure Options where
  /-- Length of the window in seconds. -/
  seconds : Nat
  /-- How many events a window may hold without firing. -/
  count : Nat
  /-- Whether to print a heap histogram. -/
  heapHistogram : Bool
  /-- How many classes the histogram shows; zero shows all. -/
  histogramEntries : Nat
  /-- Whether to print memory usage and pools. -/
  memoryUsage : Bool
  /-- Whether to ask for a thread dump. -/
  threadDump : Bool
  /-- Template of the path to dump the heap to. -/
  heapDumpPath : Option String
  /-- The signal that ends the process. -/
  signal : Signal
  deriving DecidableEq, Repr

namespace Options

/-- The settings without any option. -/
def default : Options where
  seconds := 1
  count := 0
  heapHistogram := false
  histogramEntries := 100
  memoryUsage := true
  threadDump := false
  heapDumpPath := none
  signal := .kill

/-- The template as the log shows it. -/
def shownTemplate : Option String → String
  | none => "None"
  | some template => "Some(" ++ Text.quoted template ++ ")"

/-- The settings as the log shows them, each under its name. -/
def shown (options : Options) : String :=
  "Configuration \x7b time_threshold: " ++ toString options.seconds ++
    ", count_threshold: " ++ toString options.count ++
    ", print_heap_histogram: " ++ toString options.heapHistogram ++
    ", heap_histogram_max_entries: " ++ toString options.histogramEntries ++
    ", print_memory_usage: " ++ toString options.memoryUsage ++
    ", print_thread_dump: " ++ toString options.threadDump ++
    ", heap_dump_path: " ++ shownTemplate options.heapDumpPath ++
    ", signal: " ++ options.signal.name ++ " \x7d"

end Options

end ExhaustionGuard
