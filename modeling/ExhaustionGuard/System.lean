import ExhaustionGuard.Calendar.Writing
import ExhaustionGuard.Directory
import ExhaustionGuard.Heap.ClassName
import ExhaustionGuard.Signal

/-!
# Systems

What the process of the agent runs on, and the libraries that the agent is built with. The files of
the system are a tree that the agent can only add directories to, and the system may refuse that
for reasons of its own.
-/

namespace ExhaustionGuard

/-- The libraries that the agent takes from others. -/
structure Libraries where
  regex : Text.RegexLibrary
  formatTime : Calendar.Formatter

/-- The system that the process runs on. -/
structure System where
  tree : Directory
  makeDirectories : Directory.Maker
  /-- The working directory of the process; it may be gone. -/
  workingDirectory : Except OutputError String
  /-- Why the system refuses to deliver a signal, if it does. -/
  refusal : Signal → Option Errno
  /-- What the clock on the wall shows. -/
  now : Calendar.LocalTime
  libraries : Libraries

/-- The libraries that are written out here. -/
def Libraries.own : Libraries where
  regex := Heap.descriptorLibrary
  formatTime := Calendar.write?

/-- A system with a working directory that makes directories wherever there is a place for them. -/
def System.inMemory (tree : Directory) (workingDirectory : String)
    (refusal : Signal → Option Errno) (now : Calendar.LocalTime) : System where
  tree := tree
  makeDirectories := Directory.make
  workingDirectory := .ok workingDirectory
  refusal := refusal
  now := now
  libraries := .own

end ExhaustionGuard
