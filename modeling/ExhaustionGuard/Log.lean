import ExhaustionGuard.Exhaustion
import ExhaustionGuard.Options

/-!
# Log lines

A log line has a level, the topic that it belongs to, a message and a few named values.
-/

namespace ExhaustionGuard

/-- How much a log line matters, from the most to the least. -/
inductive Level where
  | error | warn | info | debug
  deriving DecidableEq, Repr

namespace Level

def name : Level → String
  | error => "ERROR"
  | warn => "WARN"
  | info => "INFO"
  | debug => "DEBUG"

/-- The place of a level among all levels, counted from one. -/
def rank : Level → Nat
  | error => 1
  | warn => 2
  | info => 3
  | debug => 4

end Level

/-- The part of the agent that a log line comes from. -/
inductive Topic where
  | options | window | controller | action | histogram | pools | threadDump | heapDump | kill
  | traversal | agent
  deriving DecidableEq, Repr

namespace Topic

/-- The name under which a log filter addresses a topic. -/
def name : Topic → String
  | options => "jvmkill::config"
  | window => "jvmkill::threshold"
  | controller => "jvmkill::controller"
  | action => "jvmkill::action"
  | histogram => "jvmkill::action::heap_histogram"
  | pools => "jvmkill::action::pool_stats"
  | threadDump => "jvmkill::action::thread_dump"
  | heapDump => "jvmkill::action::heap_dump"
  | kill => "jvmkill::action::kill"
  | traversal => "jvmkill::heap::traversal"
  | agent => "jvmkill::jvm::agent"

end Topic

/-- A named value of a log line. -/
inductive Field where
  | option (key : String)
  | path (path : String)
  | classes (count : Nat)
  | delay (milliseconds : Nat)
  /-- The name of an action. -/
  | action (name : String)
  /-- The names of all actions of a pipeline. -/
  | actions (names : List String)
  | options (options : Options)
  | epoch (number : Nat)
  /-- What the machine says of an event. -/
  | description (words : String)
  | flags (event : Exhaustion)
  deriving DecidableEq, Repr

namespace Field

/-- The name of a value. -/
def name : Field → String
  | option _ => "option"
  | path _ => "path"
  | classes _ => "classes"
  | delay _ => "delay_ms"
  | action _ => "action"
  | actions _ => "actions"
  | options _ => "config"
  | epoch _ => "epoch"
  | description _ => "description"
  | flags _ => "flags"

/-- The value as it is printed. -/
def text : Field → String
  | option key => Text.quoted key
  | .path file => file
  | classes count => toString count
  | delay milliseconds => toString milliseconds
  | action name => Text.quoted name
  | actions names => "[" ++ String.intercalate ", " (names.map Text.quoted) ++ "]"
  | .options settings => settings.shown
  | epoch number => toString number
  | description words => words
  | flags event => toString event.bits.toInt

end Field

structure LogLine where
  level : Level
  topic : Topic
  message : String
  fields : List Field
  deriving DecidableEq, Repr

namespace LogLine

/-- The names under which a line has values. The message is one of them. -/
def fieldNames (line : LogLine) : List String :=
  "message" :: line.fields.map Field.name

/-- The line as it is printed: the level in five columns, the message without characters that a
terminal would act upon, and the named values. -/
def render (line : LogLine) : String :=
  let values := line.fields.map fun field => " " ++ field.name ++ "=" ++ field.text
  let level := String.ofList (List.replicate (5 - line.level.name.length) ' ') ++ line.level.name
  level ++ " " ++ Text.harmless line.message ++ String.join values ++ "\n"

end LogLine

/-- What a log setting comes to: the lines that show under it. Reading a setting may panic, and then
there is nothing. -/
abbrev LogReader := Option String → Option (LogLine → Bool)

end ExhaustionGuard
