import ExhaustionGuard.System

/-!
# Paths of heap dumps

The path of a heap dump is a time template, written for the moment of the dump and seen from the
working directory of the process.
-/

namespace ExhaustionGuard.DumpPath

/-- The absolute path that a template stands for at a local time. The working directory is looked up
only if the path does not start at the root. -/
def resolve (system : System) (template : String) (time : Calendar.LocalTime) :
    Except OutputError String :=
  match system.libraries.formatTime template time with
  | none => .error (.badTemplate template)
  | some path =>
      if Path.isAbsolute path then .ok path
      else system.workingDirectory.map fun directory => Path.fromDirectory directory path

/-- The template that stands for a text itself: each percent sign is doubled. -/
def escape (text : String) : String :=
  String.ofList (text.toList.flatMap fun c => if c = '%' then ['%', '%'] else [c])

end ExhaustionGuard.DumpPath
