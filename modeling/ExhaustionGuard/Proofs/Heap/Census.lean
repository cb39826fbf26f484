import ExhaustionGuard.Proofs.Heap.Slots
import ExhaustionGuard.Proofs.Heap.Words
import Mathlib.Algebra.BigOperators.Fin
import Mathlib.Algebra.Order.BigOperators.Group.Finset

/-! # What a histogram ought to say

The objects that can be reached from the roots without entering a closed set,
and the census of a set of objects: for each signature, how many of them have a
loaded class of that signature and how many bytes these take together.
-/

namespace ExhaustionGuard.Heap

namespace Graph

variable {graph : Graph} {closed : Set Nat}

/-- An object can be reached from the roots by references that avoid a closed set; it is not
closed itself. -/
inductive Reaches (graph : Graph) (closed : Set Nat) : Nat → Prop where
  | root {object : Nat} : object ∈ graph.roots → object ∉ closed → Reaches graph closed object
  | step {object next : Nat} : Reaches graph closed object → next ∈ graph.references object →
      next ∉ closed → Reaches graph closed next

open Classical in
/-- The objects that can be reached from the roots without entering a closed set. -/
noncomputable def live (graph : Graph) (closed : Set Nat) : Finset Nat :=
  (Finset.range graph.objects.size).filter (graph.Reaches closed)

theorem mem_live {object : Nat} :
    object ∈ graph.live closed ↔ object < graph.objects.size ∧ graph.Reaches closed object := by
  simp [live]

theorem live_subset (graph : Graph) (closed : Set Nat) :
    graph.live closed ⊆ Finset.range graph.objects.size :=
  fun _ hobject => Finset.mem_range.mpr (mem_live.mp hobject).1

/-- One visit for each root and one for each reference of a live object. -/
noncomputable def visitsOf (graph : Graph) (closed : Set Nat) : Nat :=
  graph.roots.length + ∑ object ∈ graph.live closed, (graph.references object).length

theorem sum_references (graph : Graph) :
    ∑ object ∈ Finset.range graph.objects.size, (graph.references object).length =
      (graph.objects.toList.flatMap fun object => object.references).length := by
  rw [List.length_flatMap, ← Fin.sum_univ_fun_getElem, ← Array.length_toList, Finset.sum_range]
  apply Finset.sum_congr rfl
  intro object _
  simp [references]

theorem visitsOf_le (graph : Graph) (closed : Set Nat) :
    graph.visitsOf closed ≤ graph.referenceCount := by
  rw [visitsOf, referenceCount, ← sum_references]
  exact Nat.add_le_add_left (Finset.sum_le_sum_of_subset (graph.live_subset closed)) _

/-- The signature of an object whose class is loaded. -/
def signatureOf? (graph : Graph) (object : Nat) : Option String :=
  match graph.objects[object]? with
  | some o => if o.cls < graph.signatures.size then some (graph.signature o.cls) else none
  | none => none

/-- The bytes that an object takes. -/
def bytesOf (graph : Graph) (object : Nat) : Int :=
  (graph.reached object).size

/-- How many of some objects have a signature and how many bytes these take together, if there
are any. -/
def census (graph : Graph) (objects : Finset Nat) (signature : String) : Option Tally :=
  let members := objects.filter fun object => graph.signatureOf? object = some signature
  if members = ∅ then none else some ⟨members.card, ∑ object ∈ members, graph.bytesOf object⟩

@[simp]
theorem census_empty (graph : Graph) (signature : String) : graph.census ∅ signature = none := by
  simp [census]

/-- One more object changes the line of its signature alone. -/
theorem census_insert {objects : Finset Nat} {object : Nat} (hnew : object ∉ objects)
    (signature : String) :
    graph.census (insert object objects) signature =
      if graph.signatureOf? object = some signature then
        some (Tally.add (graph.bytesOf object) (graph.census objects signature))
      else graph.census objects signature := by
  by_cases hsignature : graph.signatureOf? object = some signature
  · have hfresh : object ∉ objects.filter fun other => graph.signatureOf? other = some signature :=
      fun hmem => hnew (Finset.mem_filter.mp hmem).1
    simp only [census, Finset.filter_insert, hsignature, if_true, Finset.insert_ne_empty, if_false,
      Finset.card_insert_of_notMem hfresh, Finset.sum_insert hfresh]
    split
    next hempty => simp [hempty, Tally.add]
    next => simp [Tally.add, add_comm]
  · simp only [census, Finset.filter_insert, hsignature, if_false]

namespace Alike

variable {left right : Graph}

theorem signatureOf?_eq (alike : left.Alike right) (object : Nat) :
    left.signatureOf? object = right.signatureOf? object := by
  simp only [signatureOf?, signature, alike.objects, alike.signatures]

theorem bytesOf_eq (alike : left.Alike right) (object : Nat) :
    left.bytesOf object = right.bytesOf object := by
  simp only [bytesOf, reached, alike.objects]
  cases right.objects[object]? <;> rfl

theorem census_eq (alike : left.Alike right) (objects : Finset Nat) (signature : String) :
    left.census objects signature = right.census objects signature := by
  simp only [census, alike.signatureOf?_eq, alike.bytesOf_eq]

theorem reaches (alike : left.Alike right) {object : Nat} (reaches : left.Reaches closed object) :
    right.Reaches closed object := by
  induction reaches with
  | root hroot hopen => exact .root (alike.roots ▸ hroot) hopen
  | step _ hnext hopen ih => exact .step ih (alike.references_eq _ ▸ hnext) hopen

theorem live_eq (alike : left.Alike right) : left.live closed = right.live closed := by
  ext object
  rw [mem_live, mem_live, alike.objects]
  exact and_congr_right fun _ => ⟨alike.reaches, alike.symm.reaches⟩

theorem visitsOf_eq (alike : left.Alike right) : left.visitsOf closed = right.visitsOf closed := by
  simp only [visitsOf, alike.roots, alike.live_eq, alike.references_eq]

end Alike

end Graph

namespace Histogram

@[simp]
theorem get?_empty (signature : String) : empty.get? signature = none :=
  Std.TreeMap.getElem?_emptyc

theorem get?_record (histogram : Histogram) (recorded signature : String) (size : Int) :
    (histogram.record recorded size).get? signature =
      if recorded = signature then some (ClassStats.add size (histogram.get? recorded))
      else histogram.get? signature := by
  have halter : (histogram.classes.alter recorded
      fun stats => some (ClassStats.add size stats))[signature]? = _ :=
    Std.TreeMap.getElem?_alter
  simpa [record, get?, Std.LawfulEqCmp.compare_eq_iff_eq] using halter

/-- Histograms that say the same have the same entries. -/
theorem entries_eq_of_get?_eq {left right : Histogram}
    (hget : ∀ signature, left.get? signature = right.get? signature) :
    left.entries = right.entries :=
  (Std.TreeMap.Equiv.of_forall_constGet?_eq hget).toList_eq

end Histogram

end ExhaustionGuard.Heap
