/-!
# Marks in tag slots

A tag slot is a signed 64-bit word. Its low 31 bits hold a class tag, the bits above them hold
the stamp of the capture that saw the object last. In two's complement the low 31 bits are the
remainder modulo `2 ^ 31`, whatever the sign, so slots are read as integers here.
-/

namespace ExhaustionGuard.Heap

/-- The number of values of the low bits; class tags stay below it. -/
def classTagLimit : Int := 0x80000000

def classBits (slot : Int) : Int :=
  slot % classTagLimit

/-- A slot without its class tag. -/
def markBits (slot : Int) : Int :=
  slot - classBits slot

/-- How many epochs there are before they start again. -/
def epochCount : UInt32 := 2147483647

/-- A counter of captures, which starts again after `2 ^ 32` of them. -/
structure Captures where
  made : UInt32
  deriving DecidableEq, Repr

namespace Captures

/-- No capture yet. -/
def none : Captures := ⟨0⟩

/-- The epoch of the next capture, counted from one. -/
def epoch (captures : Captures) : Nat :=
  (captures.made % epochCount).toNat + 1

/-- The counter after a capture. -/
def next (captures : Captures) : Captures :=
  ⟨captures.made + 1⟩

end Captures

/-- The stamp of an epoch: a slot with the epoch above its low 32 bits. -/
def stampOf (epoch : Nat) : Int :=
  (epoch : Int) * 0x100000000

def isStamped (stamp slot : Int) : Bool :=
  markBits slot == stamp

/-- A slot with its class tag kept and a stamp put above it. -/
def restamp (stamp slot : Int) : Int :=
  classBits slot + stamp

end ExhaustionGuard.Heap
