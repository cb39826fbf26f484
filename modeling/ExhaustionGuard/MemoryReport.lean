import ExhaustionGuard.Host

/-!
# Memory reports

The usage of the heap, of the memory beside it and of each pool, a line each. Where a limit that
can be raised is nearly reached, a hint says how to raise it.
-/

namespace ExhaustionGuard.MemoryReport

/-- A number brought into the range of a signed 64-bit word. -/
def saturate (n : Int) : Int :=
  max (-0x8000000000000000) (min 0x7FFFFFFFFFFFFFFF n)

/-- Whether a defined maximum is nearly committed: 95 hundredths of it, compared in saturating
64-bit arithmetic. -/
def nearLimit (usage : MemoryUsage) : Bool :=
  0 < usage.maximum && saturate (usage.maximum * 95) ≤ saturate (usage.committed * 100)

/-- What to do about an area that is nearly full, where something can be done. -/
def advice? (name : String) : Option String :=
  match name with
  | "Heap memory" =>
      some "Heap memory is over 95% full. To increase it, increase the container size."
  | "Metaspace" =>
      some ("Metaspace is over 95% full. To increase it, set -XX:MaxMetaspaceSize to a " ++
        "suitable value.")
  | "Compressed Class Space" =>
      some ("Compressed Class Space is over 95% full. To increase it, set " ++
        "-XX:CompressedClassSpaceSize to a suitable value.")
  | _ => none

/-- The hint for an area, if it is nearly full. -/
def hint? (name : String) (usage : MemoryUsage) : Option String :=
  if nearLimit usage then advice? name else none

/-- The line that shows the usage of an area. -/
def usageLine (name : String) (usage : MemoryUsage) : String :=
  "   " ++ name ++ ": init " ++ toString usage.initial ++ ", used " ++ toString usage.used ++
    ", committed " ++ toString usage.committed ++ ", max " ++ toString usage.maximum ++ "\n"

/-- The lines about an area: its usage, and a hint where there is one. -/
def areaLines (name : String) (usage : MemoryUsage) : List String :=
  usageLine name usage ::
    match hint? name usage with
    | some hint => ["      Hint: " ++ hint ++ "\n"]
    | none => []

def lines (heap nonHeap : MemoryUsage) (pools : List PoolUsage) : List String :=
  ["Memory usage:\n"] ++ areaLines "Heap memory" heap ++ areaLines "Non-heap memory" nonHeap ++
    ["\n", "Memory pool usage:\n"] ++
    pools.flatMap fun pool => areaLines pool.name pool.usage

end ExhaustionGuard.MemoryReport
