/-!
# Exhausted resources

An event says by bits which resources ran out. Bits without a meaning here are kept.
-/

namespace ExhaustionGuard

/-- The bits of an exhaustion event, a signed 32-bit word. -/
structure Exhaustion where
  bits : Int32
  deriving DecidableEq, Repr

namespace Exhaustion

/-- The event comes before an out-of-memory error is thrown. -/
def oomError : Exhaustion := ⟨1⟩

/-- The Java heap ran out. -/
def javaHeap : Exhaustion := ⟨2⟩

/-- No further thread could be created. -/
def threads : Exhaustion := ⟨4⟩

/-- All bits of the two events together. -/
def union (left right : Exhaustion) : Exhaustion :=
  ⟨left.bits ||| right.bits⟩

/-- Whether every bit of another event is among the bits of this one. -/
def contains (event part : Exhaustion) : Bool :=
  event.bits &&& part.bits == part.bits

/-- Whether the event announces an out-of-memory error. -/
def isOomError (event : Exhaustion) : Bool := event.contains oomError

def isJavaHeap (event : Exhaustion) : Bool := event.contains javaHeap

def isThreads (event : Exhaustion) : Bool := event.contains threads

end Exhaustion

end ExhaustionGuard
