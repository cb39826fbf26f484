import ExhaustionGuard.Host.Replay
import ExhaustionGuard.Proofs.Heap.Exactness
import ExhaustionGuard.Proofs.Heap.Tally
import Mathlib.Logic.Function.Basic

/-! # Whatever is handed over

A host may hand over any objects in any order, again and again, and need not
care for the answers. The visitor of a capture tells by the slots alone which
of them it has met before: a slot carries the stamp once its object was met, or
if it did so from the beginning.
-/

namespace ExhaustionGuard.Heap

variable {σ Memory : Type}

/-- Where a visitor stands: what the slots hold, what it remembers, and how it answered each object
so far. -/
structure Scan (Memory : Type) where
  slots : Nat → Int
  memory : Memory
  answered : List (Meeting × Answer)

namespace Scan

/-- The scan of a capture before the first object. -/
def start (slots : Nat → Int) : Scan Histogram := ⟨slots, .empty, []⟩

/-- An object as it is handed over now. -/
def reached (scan : Scan Memory) (meeting : Meeting) : Reached :=
  ⟨meeting.classTag, meeting.size, scan.slots meeting.place⟩

/-- The scan after one more object. -/
def meet (visit : Visitor Memory) (scan : Scan Memory) (meeting : Meeting) : Scan Memory :=
  let step := visit (scan.reached meeting) scan.memory
  { slots := Function.update scan.slots meeting.place step.1.slot
    memory := step.2
    answered := scan.answered ++ [(meeting, step.1.answer)] }

end Scan

/-- With this visitor a walk hands over these objects, one after another; each comes with what its
slot holds by then. The walk may end in any way. -/
inductive Walk.HandsOver (visit : Visitor Memory) :
    Walk σ → Scan Memory → List Meeting → Prop where
  | ended (result : Except HostFault Unit) (host : σ) (scan : Scan Memory) :
      HandsOver visit (.ended result host) scan []
  | reached {resume : Response → Walk σ} {scan : Scan Memory} {meeting : Meeting}
      {rest : List Meeting}
      (hrest : HandsOver visit (resume (visit (scan.reached meeting) scan.memory).1)
        (scan.meet visit meeting) rest) :
      HandsOver visit (.reached (scan.reached meeting) resume) scan (meeting :: rest)

section Counting

variable {tags : ClassTags} {epoch : Nat} {scan : Scan Histogram} {meeting : Meeting}

section Due

variable {slots : Nat → Int} {before : List Meeting}

end Due

/-- The low bits of the class tag of an object are a tag that was given for a signature. -/
def Belongs (tags : ClassTags) (signature : String) (meeting : Meeting) : Prop :=
  ∃ place : Nat, tags.signatures[place]? = some signature ∧ classBits meeting.classTag = place + 1

theorem signature?_eq_some_iff {signature : String} :
    tags.signature? (classBits meeting.classTag) = some signature ↔
      Belongs tags signature meeting :=
  ClassTags.signature?_eq_some_iff

instance (tags : ClassTags) (signature : String) (meeting : Meeting) :
    Decidable (Belongs tags signature meeting) :=
  decidable_of_iff _ signature?_eq_some_iff

end Counting

/-! ## Captures -/

end ExhaustionGuard.Heap
