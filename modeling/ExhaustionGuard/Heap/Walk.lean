import ExhaustionGuard.Failure

/-!
# Walks over a heap

A walk hands over reached objects one at a time. What it does next may depend on everything the
visitor answers, so a walk is a tree: each object comes with the walks that follow the possible
responses to it. A visitor answers an object with the memory of what it saw before.
-/

namespace ExhaustionGuard.Heap

/-- An object as a visitor sees it: the tag of its class, its size and the contents of its own
tag slot. -/
structure Reached where
  classTag : Int
  size : Int
  slot : Int
  deriving DecidableEq, Repr

/-- What a visitor says about an object: follow its references, do not, or a panic. -/
inductive Answer where
  | descend
  | prune
  | panicked (payload : Payload)
  deriving DecidableEq, Repr

/-- The answer to an object with the new contents of its slot. -/
structure Response where
  answer : Answer
  slot : Int
  deriving DecidableEq, Repr

/-- A visitor answers an object and changes its memory. -/
abbrev Visitor (Memory : Type) := Reached → Memory → Response × Memory

/-- A walk of a host with states `σ`. -/
inductive Walk (σ : Type) where
  | ended (result : Except HostFault Unit) (host : σ)
  | reached (object : Reached) (resume : Response → Walk σ)

namespace Walk

/-- What is left of a finished walk. -/
structure Finished (σ Memory : Type) where
  result : Except HostFault Unit
  host : σ
  memory : Memory

/-- Takes a visitor through a walk. -/
def run {σ Memory : Type} (visit : Visitor Memory) : Walk σ → Memory → Finished σ Memory
  | ended result host, memory => ⟨result, host, memory⟩
  | reached object resume, memory =>
      let step := visit object memory
      run visit (resume step.1) step.2

end Walk

end ExhaustionGuard.Heap
