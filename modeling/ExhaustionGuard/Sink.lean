import ExhaustionGuard.World

/-!
# Sinks with limits

A sink that takes a number of bytes in all, or any number, and whose flushes may all fail.
-/

namespace ExhaustionGuard

structure LimitedSink where
  /-- How many more bytes the sink takes; any number without a limit. -/
  room : Option Nat
  flushFails : Bool
  deriving DecidableEq, Repr

namespace LimitedSink

/-- A sink that takes everything. -/
def unlimited : LimitedSink := ⟨none, false⟩

/-- Takes bytes as far as there is room; a write that goes beyond it fails. -/
def write (bytes : Text.Bytes) (sink : LimitedSink) : WriteReply × LimitedSink :=
  match sink.room with
  | none => (⟨bytes.length, none⟩, sink)
  | some room =>
      if bytes.length ≤ room then
        (⟨bytes.length, none⟩, { sink with room := some (room - bytes.length) })
      else (⟨room, some .sinkFull⟩, { sink with room := some 0 })

/-- Flushes, or fails to. -/
def flush (sink : LimitedSink) : Option OutputError × LimitedSink :=
  (if sink.flushFails then some .flushRefused else none, sink)

def operations : Sink LimitedSink := ⟨write, flush, .whole⟩

end LimitedSink

end ExhaustionGuard
