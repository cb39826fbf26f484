import ExhaustionGuard.Heap.Walk
import ExhaustionGuard.Text.Lossy

/-!
# Object graphs

A heap as a finite graph. Each object has a class, a size, references and a tag slot; an object
may be the class object of a class, whose tag slot is then the class's own. A walk goes depth
first: the objects still to be reached stand on a stack, an object is handed over once for each
reference that leads to it, and its references are pushed only when the visitor descends.
-/

namespace ExhaustionGuard.Heap

structure HeapObject where
  /-- The number of its class, which need not be loaded. -/
  cls : Nat
  size : Int
  /-- The objects it refers to, in order. -/
  references : List Nat
  /-- The class whose class object it is. -/
  represents : Option Nat
  /-- Whether the machine hides the tag slot of the object. -/
  hidesSlot : Bool
  deriving DecidableEq, Repr

/-- A heap with the signatures of its loaded classes and all tag slots. -/
structure Graph where
  signatures : Array Text.Bytes
  objects : Array HeapObject
  roots : List Nat
  /-- The tag slots of the objects. -/
  slots : Array Int
  /-- The tag slots of the classes that no object represents. -/
  classSlots : Array Int
  deriving DecidableEq, Repr

namespace Graph

/-- The heap without classes and objects. -/
def empty : Graph := ⟨#[], #[], [], #[], #[]⟩

/-- The heap with further classes and objects, whose slots are zero. -/
def extend (graph : Graph) (signatures : List Text.Bytes) (objects : List HeapObject) : Graph :=
  { graph with
    signatures := graph.signatures ++ signatures
    objects := graph.objects ++ objects
    slots := graph.slots ++ objects.map fun _ => (0 : Int)
    classSlots := graph.classSlots ++ signatures.map fun _ => (0 : Int) }

def slot (graph : Graph) (object : Nat) : Int :=
  graph.slots.getD object 0

def setSlot (graph : Graph) (object : Nat) (tag : Int) : Graph :=
  { graph with slots := graph.slots.setIfInBounds object tag }

/-- The first object that is the class object of a class. -/
def classObject? (graph : Graph) (cls : Nat) : Option Nat :=
  graph.objects.findIdx? fun object => object.represents == some cls

/-- The tag of a class; zero for a class that is not loaded. -/
def classTag (graph : Graph) (cls : Nat) : Int :=
  if cls < graph.signatures.size then
    match graph.classObject? cls with
    | some object => graph.slot object
    | none => graph.classSlots.getD cls 0
  else 0

def setClassTag (graph : Graph) (cls : Nat) (tag : Int) : Graph :=
  match graph.classObject? cls with
  | some object => graph.setSlot object tag
  | none => { graph with classSlots := graph.classSlots.setIfInBounds cls tag }

def classTags (graph : Graph) : List Int :=
  (List.range graph.signatures.size).map graph.classTag

def references (graph : Graph) (object : Nat) : List Nat :=
  match graph.objects[object]? with
  | some o => o.references
  | none => []

/-- Whether the machine hides the tag slot of an object. -/
def hidesSlot (graph : Graph) (object : Nat) : Bool :=
  match graph.objects[object]? with
  | some o => o.hidesSlot
  | none => true

/-- An object as a visitor sees it now. -/
def reached (graph : Graph) (object : Nat) : Reached :=
  match graph.objects[object]? with
  | some o => ⟨graph.classTag o.cls, o.size, graph.slot object⟩
  | none => ⟨0, 0, 0⟩

/-- How many references there are, those of the roots included. -/
def referenceCount (graph : Graph) : Nat :=
  graph.roots.length + (graph.objects.toList.flatMap fun o => o.references).length

/-- A bound on the objects handed over in one walk. It exceeds the number of paths that repeat no
object, which is enough for every visitor that never descends along a cycle; beyond it there is
room for visitors that leave a cycle on their own. -/
def patience (graph : Graph) : Nat :=
  (graph.objects.size + 1) * (graph.referenceCount + 1).pow (graph.objects.size + 2) +
    0x10000000000000000

end Graph

end ExhaustionGuard.Heap
