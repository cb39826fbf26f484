import ExhaustionGuard.Host
import ExhaustionGuard.Text.Lossy

/-!
# A host that replays a walk

A host whose walk hands over given objects in a given order, whatever the visitor says. Setting
class tags does nothing. The slots stay as the visitors leave them, and the answers are kept.
-/

namespace ExhaustionGuard

/-- An object to be handed over: the class tag and size to be shown, and the place of its slot. -/
structure Meeting where
  classTag : Int
  size : Int
  place : Nat
  deriving DecidableEq, Repr

/-- The state of a replaying host. -/
structure Replay where
  signatures : Array Text.Bytes
  slots : Array Int
  meetings : List Meeting
  /-- The answers of the visitor, in order. -/
  answers : List Heap.Answer
  deriving DecidableEq, Repr

namespace Replay

def respond (host : Replay) (meeting : Meeting) (response : Heap.Response) : Replay :=
  { host with
    slots := host.slots.setIfInBounds meeting.place response.slot
    answers := host.answers ++ [response.answer] }

def walkThrough : List Meeting → Replay → Heap.Walk Replay
  | [], host => .ended (.ok ()) host
  | meeting :: rest, host =>
      .reached ⟨meeting.classTag, meeting.size, host.slots.getD meeting.place 0⟩ fun response =>
        let next := host.respond meeting response
        match response.answer with
        | .panicked payload => .ended (.error (.panicked payload)) next
        | _ => walkThrough rest next

def heap : HeapHost Replay where
  loadedClasses := HostM.ofFunction fun host => (.ok (List.range host.signatures.size), host)
  classSignature := fun cls => HostM.ofFunction fun host =>
    (.ok (Text.decodeLossy (host.signatures.getD cls [])), host)
  setClassTag := fun _ _ => pure ()
  followReferences := fun host => walkThrough host.meetings host

/-- The host with further meetings to come and no answers yet. -/
def facing (host : Replay) (meetings : List Meeting) : Replay :=
  { host with meetings := meetings, answers := [] }

end Replay

end ExhaustionGuard
