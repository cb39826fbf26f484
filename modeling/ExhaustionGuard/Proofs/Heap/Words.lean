import ExhaustionGuard.Heap.Histogram
import Mathlib.Algebra.BigOperators.Group.List.Basic
import Mathlib.Algebra.Ring.Int.Defs

/-! # Tallies and the words of a histogram

A histogram keeps its numbers in words, which go round where they run out. What
it tells are the exact numbers taken into words, in whatever order the objects
came; so it tells the exact numbers themselves as soon as these fit, even if
they went round on the way.
-/

namespace ExhaustionGuard.Heap

/-- How many objects there are and how many bytes they take together, exactly. -/
structure Tally where
  count : Nat
  total : Int
  deriving DecidableEq, Repr

namespace Tally

/-- The tally with one more object, where there may have been none before. -/
def add (size : Int) : Option Tally → Tally
  | none => ⟨1, size⟩
  | some tally => ⟨tally.count + 1, tally.total + size⟩

/-- The tally of objects of these sizes, if there are any. -/
def ofSizes (sizes : List Int) : Option Tally :=
  if sizes.isEmpty then none else some ⟨sizes.length, sizes.sum⟩

/-- The tally taken into words. -/
def words (tally : Tally) : ClassStats := ⟨.ofNat tally.count, .ofInt tally.total⟩

/-- Both numbers of a tally fit into their words. -/
structure Fits (tally : Tally) : Prop where
  count : tally.count < 2 ^ 64
  low : -2 ^ 63 ≤ tally.total
  high : tally.total < 2 ^ 63

end Tally

/-- The numbers that stand in the words. -/
def ClassStats.tally (stats : ClassStats) : Tally := ⟨stats.count.toNat, stats.total.toInt⟩

namespace Tally

theorem Fits.tally_words {tally : Tally} (fits : tally.Fits) : tally.words.tally = tally := by
  have hcount : (UInt64.ofNat tally.count).toNat = tally.count :=
    UInt64.toNat_ofNat_of_lt' fits.count
  have htotal : (Int64.ofInt tally.total).toInt = tally.total :=
    Int64.toInt_ofInt_of_le fits.low fits.high
  rw [words, ClassStats.tally, hcount, htotal]

/-- One more object is added to the words as it is to the numbers. -/
theorem words_add (size : Int) (tally : Option Tally) :
    (add size tally).words = ClassStats.add size (tally.map words) := by
  cases tally with
  | none => rfl
  | some tally => simp [add, ClassStats.add, words, UInt64.ofNat_add, Int64.ofInt_add]

theorem ofSizes_concat (sizes : List Int) (size : Int) :
    ofSizes (sizes ++ [size]) = some (add size (ofSizes sizes)) := by
  by_cases hsizes : sizes = []
  · simp [ofSizes, add, hsizes]
  · simp [ofSizes, add, hsizes]

theorem ofSizes_eq_none_iff {sizes : List Int} : ofSizes sizes = none ↔ sizes = [] := by
  simp [ofSizes]

theorem ofSizes_eq_of_perm {sizes others : List Int} (hperm : sizes.Perm others) :
    ofSizes sizes = ofSizes others := by
  rw [ofSizes, ofSizes, hperm.isEmpty_eq, hperm.length_eq, hperm.sum_eq]

end Tally

/-- A histogram tells a tally for a signature: the words of it, and so the exact numbers where they
fit. -/
structure Histogram.Tells (histogram : Histogram) (signature : String) (tally : Option Tally) :
    Prop where
  words : histogram.get? signature = tally.map Tally.words
  exact : (∀ numbers ∈ tally, numbers.Fits) →
    (histogram.get? signature).map ClassStats.tally = tally

/-- The words settle what is told. -/
theorem Histogram.Tells.of_words {histogram : Histogram} {signature : String}
    {tally : Option Tally} (hwords : histogram.get? signature = tally.map Tally.words) :
    histogram.Tells signature tally := by
  refine ⟨hwords, fun hfits => ?_⟩
  rw [hwords]
  cases tally with
  | none => rfl
  | some tally => exact congrArg some (hfits tally rfl).tally_words

end ExhaustionGuard.Heap
