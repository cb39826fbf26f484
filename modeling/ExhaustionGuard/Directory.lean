import ExhaustionGuard.Failure
import ExhaustionGuard.Path

/-!
# Directory trees

A tree of directories and files. Directories can be made, together with those above them; nothing
is ever removed or changed.
-/

namespace ExhaustionGuard

/-- What a name in a directory stands for. -/
inductive EntryKind where
  | directory | file
  deriving DecidableEq, Repr

/-- The entries of a tree, each with the names that lead to it. The root is always there. -/
structure Directory where
  entries : List (List String × EntryKind)
  deriving DecidableEq, Repr

namespace Directory

def kind? (tree : Directory) (place : List String) : Option EntryKind :=
  if place.isEmpty then some .directory else tree.entries.lookup place

def insert (tree : Directory) (place : List String) (kind : EntryKind) : Directory :=
  ⟨tree.entries ++ [(place, kind)]⟩

def withAncestors (tree : Directory) (place : List String) : Directory :=
  ((List.range place.length).map place.take).foldl
    (fun tree above =>
      if (tree.kind? above).isSome then tree else tree.insert above .directory) tree

def plant (tree : Directory) (place : List String) (kind : EntryKind) : Directory :=
  let tree := tree.withAncestors place
  if (tree.kind? place).isSome then tree else tree.insert place kind

/-- The place that steps lead to, from a directory of the tree on. -/
def follow (tree : Directory) : List String → List String → Except PathError (List String)
  | place, [] => .ok place
  | place, name :: rest =>
      match tree.kind? place with
      | none => .error .notFound
      | some .file => .error .notDirectory
      | some .directory =>
          if name = ".." then follow tree place.dropLast rest
          else if Path.longestName < name.utf8ByteSize then .error .nameTooLong
          else
            match tree.kind? (place ++ [name]) with
            | none => .error .notFound
            | some _ => follow tree (place ++ [name]) rest

/-- Whether a path through steps is short enough, and free of NUL, to be given to the system. -/
def checkSteps (steps : List Path.Step) : Except PathError Unit :=
  if steps.any fun step => Text.hasNul step.name then .error .nulInName
  else if Path.longestPath < Path.sizeOf steps then .error .nameTooLong
  else .ok ()

def isDirectory (tree : Directory) (steps : List Path.Step) : Bool :=
  match checkSteps steps, tree.follow [] (steps.map Path.Step.name) with
  | .ok (), .ok place => tree.kind? place == some .directory
  | _, _ => false

/-- The place for a new directory: the directory above it exists, and the name is free. -/
def freePlace (tree : Directory) (steps : List Path.Step) :
    Except PathError (List String) := do
  checkSteps steps
  let names := steps.map Path.Step.name
  match names.getLast? with
  | none => .error .alreadyThere
  | some name =>
      let above ← tree.follow [] names.dropLast
      match tree.kind? above with
      | some .directory =>
          if name = ".." then .error .alreadyThere
          else if Path.longestName < name.utf8ByteSize then .error .nameTooLong
          else if (tree.kind? (above ++ [name])).isSome then .error .alreadyThere
          else .ok (above ++ [name])
      | some .file => .error .notDirectory
      | none => .error .notFound

/-- What making directories did: how it ended, and the places that are new. -/
structure Made where
  result : Except PathError Unit
  tree : Directory
  added : List (List String)

/-- A way to make a directory, given by the steps to it, and the directories above it that are
missing. -/
abbrev Maker := Directory → List Path.Step → Made

/-- Makes one directory; it is no error if it is there already. -/
def makeOne (tree : Directory) (steps : List Path.Step) : Made :=
  match tree.freePlace steps with
  | .ok place => ⟨.ok (), tree.insert place .directory, [place]⟩
  | .error error =>
      if tree.isDirectory steps then ⟨.ok (), tree, []⟩ else ⟨.error error, tree, []⟩

/-- Makes a directory, given by its steps in reverse, and the directories above it that are
missing. -/
def makeReversed (tree : Directory) : List Path.Step → Made
  | [] => ⟨.ok (), tree, []⟩
  | step :: above =>
      let steps := (step :: above).reverse
      match tree.freePlace steps with
      | .error .notFound =>
          let before := makeReversed tree above
          match before.result with
          | .error error => ⟨.error error, before.tree, before.added⟩
          | .ok () =>
              let made := before.tree.makeOne steps
              { made with added := before.added ++ made.added }
      | _ => tree.makeOne steps

/-- Makes a directory and the directories above it that are missing, on a system that refuses
nothing which is possible. -/
def make : Maker := fun tree steps =>
  tree.makeReversed steps.reverse

/-- An entry below a place as text: directories end in a slash. -/
def listing (below : List String) (entry : List String × EntryKind) : Option String :=
  if below.isPrefixOf entry.1 && entry.1 != below then
    let path := String.intercalate "/" (entry.1.drop below.length)
    some (if entry.2 = .directory then path ++ "/" else path)
  else none

/-- Everything below a place, in the order of the texts. -/
def list (tree : Directory) (place : List String) : List String :=
  (tree.entries.filterMap (listing place)).mergeSort fun left right => left ≤ right

end Directory

end ExhaustionGuard
