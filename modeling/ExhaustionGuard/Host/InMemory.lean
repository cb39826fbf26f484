import ExhaustionGuard.Heap.Graph
import ExhaustionGuard.Host

/-!
# A host in memory

A host whose heap is an object graph and whose memory usage is given. Any of its operations can
be planned to fail: always, at one call, or after so many visits of a walk. The host remembers
which operations were called.
-/

namespace ExhaustionGuard

inductive HostOperation where
  | loadedClasses | classSignature | setClassTag | followReferences
  | heapUsage | nonHeapUsage | pools | dumpHeap
  deriving DecidableEq, Repr

structure PlannedFailure where
  operation : HostOperation
  fault : HostFault
  /-- The only call that fails, counted from one; every call fails without it. -/
  onlyAt : Option Nat
  /-- How many visits a failing walk makes before it fails. -/
  afterVisits : Option Nat
  deriving DecidableEq, Repr

/-- The state of a host in memory. -/
structure InMemory where
  graph : Heap.Graph
  plan : List PlannedFailure
  /-- The operations called so far, the latest first. -/
  calls : List HostOperation
  /-- The visits made since the classes were last listed. -/
  visits : Nat
  heapUsage : MemoryUsage
  nonHeapUsage : MemoryUsage
  pools : List PoolUsage
  deriving DecidableEq, Repr

namespace InMemory

/-- A host with an empty heap that uses no memory. -/
def empty : InMemory where
  graph := .empty
  plan := []
  calls := []
  visits := 0
  heapUsage := default
  nonHeapUsage := default
  pools := []

def noteCall (host : InMemory) (operation : HostOperation) : InMemory :=
  { host with calls := operation :: host.calls }

/-- The failure planned for the latest call of an operation. -/
def due? (host : InMemory) (operation : HostOperation) : Option PlannedFailure :=
  host.plan.find? fun failure =>
    failure.operation == operation &&
      (failure.onlyAt == none || failure.onlyAt == some (host.calls.count operation))

/-- Calls an operation: it fails if that is planned, and is answered otherwise. -/
def perform {α : Type} (operation : HostOperation) (answer : InMemory → α × InMemory) :
    HostM InMemory α :=
  HostM.ofFunction fun host =>
    let host := host.noteCall operation
    match host.due? operation with
    | some failure => (.error failure.fault, host)
    | none =>
        let result := answer host
        (.ok result.1, result.2)

/-- The host after a response to a visited object. -/
def respond (host : InMemory) (object : Nat) (response : Heap.Response) : InMemory :=
  { host with graph := host.graph.setSlot object response.slot, visits := host.visits + 1 }

/-- A walk with objects still to be reached on a stack, which may fail after so many visits. -/
def walkFrom (stop : Option (Nat × HostFault)) :
    Nat → Nat → List Nat → InMemory → Heap.Walk InMemory
  | 0, _, _, host => .ended (.ok ()) host
  | fuel + 1, made, stack, host =>
      match stop.filter fun failure => failure.1 == made with
      | some failure => .ended (.error failure.2) host
      | none =>
          match stack with
          | [] => .ended (.ok ()) host
          | object :: rest =>
              .reached (host.graph.reached object) fun response =>
                let next := host.respond object response
                match response.answer with
                | .descend =>
                    walkFrom stop fuel (made + 1) (host.graph.references object ++ rest) next
                | .prune => walkFrom stop fuel (made + 1) rest next
                | .panicked payload => .ended (.error (.panicked payload)) next

def followReferences (host : InMemory) : Heap.Walk InMemory :=
  let host := host.noteCall .followReferences
  let start := fun stop => walkFrom stop (host.graph.patience + 1) 0 host.graph.roots host
  match host.due? .followReferences with
  | none => start none
  | some failure => start (some (failure.afterVisits.getD 0, failure.fault))

def heap : HeapHost InMemory where
  loadedClasses := perform .loadedClasses fun host =>
    (List.range host.graph.signatures.size, host)
  classSignature := fun cls => perform .classSignature fun host =>
    (Text.decodeLossy (host.graph.signatures.getD cls []), host)
  setClassTag := fun cls tag => perform .setClassTag fun host =>
    ((), { host with graph := host.graph.setClassTag cls tag })
  followReferences := followReferences

def memory : MemoryHost InMemory where
  heapUsage := perform .heapUsage fun host => (host.heapUsage, host)
  nonHeapUsage := perform .nonHeapUsage fun host => (host.nonHeapUsage, host)
  pools := perform .pools fun host => (host.pools, host)

/-- The whole host; a heap dump that is not planned to fail succeeds and changes nothing. -/
def host : Host InMemory where
  heap := heap
  memory := memory
  dumpHeap := fun _ => perform .dumpHeap fun host => ((), host)

/-- The host as it is before a capture: no visit of it is made. -/
def beforeCapture (host : InMemory) : InMemory :=
  { host with visits := 0 }

end InMemory

end ExhaustionGuard
