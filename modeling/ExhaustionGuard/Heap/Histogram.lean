import Std.Data.TreeMap

/-!
# Histograms of objects

How many objects of each class were seen, and how many bytes they take together.
-/

namespace ExhaustionGuard.Heap

/-- The objects of one class: how many, and their bytes together. Both are words of 64 bits, and go
round where they run out. -/
structure ClassStats where
  count : UInt64
  total : Int64
  deriving DecidableEq, Repr, Inhabited

namespace ClassStats

/-- The statistics with one more object, where there may have been none before. -/
def add (size : Int) : Option ClassStats → ClassStats
  | none => ⟨1, .ofInt size⟩
  | some stats => ⟨stats.count + 1, stats.total + .ofInt size⟩

end ClassStats

/-- The statistics of each class signature that was seen. -/
structure Histogram where
  classes : Std.TreeMap String ClassStats

namespace Histogram

/-- The histogram of no objects. -/
def empty : Histogram := ⟨∅⟩

/-- The histogram with one more object. -/
def record (histogram : Histogram) (signature : String) (size : Int) : Histogram :=
  ⟨histogram.classes.alter signature fun stats => some (ClassStats.add size stats)⟩

/-- The statistics of a signature, if an object of it was recorded. -/
def get? (histogram : Histogram) (signature : String) : Option ClassStats :=
  histogram.classes.get? signature

/-- How many signatures were seen. -/
def size (histogram : Histogram) : Nat :=
  histogram.classes.size

/-- The signatures with their statistics. -/
def entries (histogram : Histogram) : List (String × ClassStats) :=
  histogram.classes.toList

end Histogram

end ExhaustionGuard.Heap
