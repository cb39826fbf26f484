import ExhaustionGuard.Heap.Walk

/-!
# Hosts

What the agent needs from the machine that it watches. A host has a state that every operation
may read and change; an operation ends with a value, an error or a panic.
-/

namespace ExhaustionGuard

/-- An operation of a host with states `σ`. -/
abbrev HostM (σ α : Type) := ExceptT HostFault (StateM σ) α

namespace HostM

variable {σ α : Type}

/-- An operation that ends with an error. -/
def fail (error : HostError) : HostM σ α :=
  throw (.failed error)

/-- The ending and the state after an operation. -/
def finish (operation : HostM σ α) (host : σ) : Except HostFault α × σ :=
  StateT.run (ExceptT.run operation) host

/-- An operation given by its ending and the state after it. -/
def ofFunction (f : σ → Except HostFault α × σ) : HostM σ α :=
  ExceptT.mk f

end HostM

/-- The number of a loaded class. -/
abbrev ClassId := Nat

/-- How much memory one area uses, in bytes, as the machine reports it. -/
structure MemoryUsage where
  initial : Int
  used : Int
  committed : Int
  maximum : Int
  deriving DecidableEq, Repr, Inhabited

structure PoolUsage where
  name : String
  usage : MemoryUsage
  deriving DecidableEq, Repr

/-- A host whose heap can be tagged and walked. -/
structure HeapHost (σ : Type) where
  loadedClasses : HostM σ (List ClassId)
  classSignature : ClassId → HostM σ String
  setClassTag : ClassId → Int → HostM σ Unit
  followReferences : σ → Heap.Walk σ

/-- A host that knows its memory usage. -/
structure MemoryHost (σ : Type) where
  heapUsage : HostM σ MemoryUsage
  nonHeapUsage : HostM σ MemoryUsage
  pools : HostM σ (List PoolUsage)

/-- Everything that the agent needs: a heap, memory usage and heap dumps. -/
structure Host (σ : Type) where
  heap : HeapHost σ
  memory : MemoryHost σ
  dumpHeap : String → HostM σ Unit

end ExhaustionGuard
