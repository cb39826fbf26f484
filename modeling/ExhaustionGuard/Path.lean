import ExhaustionGuard.Text.Blank
import ExhaustionGuard.Text.Lossy

/-!
# Paths

Absolute paths as texts and as the steps they go through. Repeated slashes and single dots are
not steps of a path, though they count for its size; double dots are steps.
-/

namespace ExhaustionGuard.Path

/-- Whether a path starts at the root. -/
def isAbsolute (path : String) : Bool :=
  path.toList.head? == some '/'

/-- A path seen from a working directory. -/
def fromDirectory (directory path : String) : String :=
  if isAbsolute path then path
  else if directory.toList.getLast? == some '/' then directory ++ path
  else directory ++ "/" ++ path

/-- A name that a path goes through, with the bytes of the path up to the end of the name. -/
structure Step where
  name : String
  size : Nat
  deriving DecidableEq, Repr

/-- Whether a piece between two slashes leads anywhere. -/
def leads (piece : String) : Bool :=
  piece != "" && piece != "."

/-- The steps that pieces between slashes stand for, after some bytes of the path. -/
def stepsAfter : Nat → List String → List Step
  | _, [] => []
  | before, piece :: rest =>
      let size := before + piece.utf8ByteSize
      if leads piece then ⟨piece, size⟩ :: stepsAfter (size + 1) rest
      else stepsAfter (size + 1) rest

/-- The pieces of a path between its slashes. -/
def pieces (path : String) : List String :=
  (Text.cut '/' path.toList).map String.ofList

def steps (path : String) : List Step :=
  stepsAfter 0 (pieces path)

/-- The steps to the directory that holds the last step of a path, if the path has a step. -/
def parentSteps? (path : String) : Option (List Step) :=
  match steps path with
  | [] => none
  | all => some all.dropLast

/-- How many bytes a name may have. -/
def longestName : Nat := 255

/-- How many bytes a path may have. -/
def longestPath : Nat := 4095

/-- The bytes of a path as far as some of its steps lead. The root is one slash. -/
def sizeOf (steps : List Step) : Nat :=
  (steps.getLast?.map Step.size).getD 1

end ExhaustionGuard.Path
