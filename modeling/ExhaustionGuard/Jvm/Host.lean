import ExhaustionGuard.Jvm.Beans
import ExhaustionGuard.Jvm.Tooling

/-!
# A Java machine as a host

Heap walks go through the tool interface; memory usage and heap dumps go through the management
beans.
-/

namespace ExhaustionGuard.Jvm

def host {J : Machine} : Host (Session J) where
  heap := Tooling.heap
  memory := Beans.memory
  dumpHeap := fun path => Beans.dumpHeap (Text.encode path)

end ExhaustionGuard.Jvm
