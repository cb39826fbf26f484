import ExhaustionGuard.Proofs.Heap.Census
import Mathlib.Algebra.Order.BigOperators.Group.Multiset
import Mathlib.Data.Fintype.Card
import Mathlib.Logic.Relation

/-! # Objects that hide their slot

A visitor that is not shown an object can neither count it nor stamp it, and
the machine follows its references each time it gets there. Seen from outside,
that is the heap in which such an object has a class that is not loaded. The
walk ends as long as no cycle is made of such objects alone.
-/

namespace ExhaustionGuard.Heap.Graph

variable {graph : Graph}

/-- The heap in which the objects that hide their slot have a class that is not loaded. -/
def veil (graph : Graph) : Graph :=
  { graph with
    objects := graph.objects.map fun object =>
      if object.hidesSlot then { object with cls := graph.signatures.size } else object }

theorem getElem?_objects_veil (graph : Graph) (object : Nat) :
    graph.veil.objects[object]? = graph.objects[object]?.map fun o =>
      if o.hidesSlot then { o with cls := graph.signatures.size } else o :=
  Array.getElem?_map

@[simp]
theorem size_objects_veil (graph : Graph) : graph.veil.objects.size = graph.objects.size :=
  Array.size_map

@[simp]
theorem references_veil (graph : Graph) (object : Nat) :
    graph.veil.references object = graph.references object := by
  rw [references, references, getElem?_objects_veil]
  cases graph.objects[object]? with
  | none => rfl
  | some o => simp only [Option.map_some]; split <;> rfl

@[simp]
theorem slot_veil (graph : Graph) (object : Nat) : graph.veil.slot object = graph.slot object :=
  rfl

theorem classObject?_veil (graph : Graph) (cls : Nat) :
    graph.veil.classObject? cls = graph.classObject? cls := by
  rw [classObject?, classObject?, veil, Array.findIdx?_map]
  congr 1
  funext object
  simp only [Function.comp_apply]
  split <;> rfl

theorem classTag_veil (graph : Graph) (cls : Nat) :
    graph.veil.classTag cls = graph.classTag cls := by
  unfold classTag
  rw [classObject?_veil]
  rfl

theorem veil_setClassTag (graph : Graph) (cls : Nat) (tag : Int) :
    (graph.setClassTag cls tag).veil = graph.veil.setClassTag cls tag := by
  unfold setClassTag
  rw [classObject?_veil]
  cases graph.classObject? cls <;> rfl

theorem HasSlots.veil (has : graph.HasSlots) : graph.veil.HasSlots :=
  ⟨has.objects.trans (size_objects_veil graph).symm, has.classes⟩

theorem Alike.veil {left right : Graph} (alike : left.Alike right) : left.veil.Alike right.veil :=
  ⟨alike.signatures, by simp only [Graph.veil, alike.objects, alike.signatures], alike.roots⟩

theorem Alike.hidesSlot_eq {left right : Graph} (alike : left.Alike right) (object : Nat) :
    left.hidesSlot object = right.hidesSlot object := by
  rw [hidesSlot, hidesSlot, alike.objects]

/-- An object that hides its slot has no class. -/
theorem signatureOf?_veil {object : Nat} (hhidden : graph.hidesSlot object = true) :
    graph.veil.signatureOf? object = none := by
  simp only [signatureOf?, getElem?_objects_veil]
  unfold hidesSlot at hhidden
  cases hobject : graph.objects[object]? with
  | none => rfl
  | some o =>
      simp only [hobject] at hhidden
      simp [hhidden, veil]

/-! ## How often the machine comes to an object -/

/-- A reference between two objects that hide their slots. -/
def HiddenStep (graph : Graph) (object next : Nat) : Prop :=
  graph.hidesSlot object = true ∧ next ∈ graph.references object ∧ graph.hidesSlot next = true

/-- No cycle is made of objects alone that hide their slots. -/
def NoHiddenCycle (graph : Graph) : Prop :=
  ∀ object, ¬ Relation.TransGen graph.HiddenStep object object

/-- If hidden objects refer to later hidden ones alone, they make no cycle. -/
theorem NoHiddenCycle.of_lt
    (hlt : ∀ object < graph.objects.size, ∀ next ∈ graph.references object,
      graph.hidesSlot object = true → graph.hidesSlot next = true → object < next) :
    graph.NoHiddenCycle := by
  have hstep : ∀ object next, graph.HiddenStep object next → object < next := by
    rintro object next ⟨hobject, hmem, hnext⟩
    rcases Nat.lt_or_ge object graph.objects.size with hinside | houtside
    · exact hlt object hinside next hmem hobject hnext
    · simp [references_of_not_object houtside] at hmem
  intro object hcycle
  suffices hsteps : ∀ next, Relation.TransGen graph.HiddenStep object next → object < next from
    Nat.lt_irrefl object (hsteps object hcycle)
  intro next hsteps
  induction hsteps with
  | single hsingle => exact hstep _ _ hsingle
  | tail _ hlast ih => exact ih.trans (hstep _ _ hlast)

open Classical in
/-- The objects to which hidden ones lead on from an object. -/
noncomputable def hiddenBelow (graph : Graph) (object : Nat) : Finset Nat :=
  (Finset.range graph.objects.size).filter (Relation.TransGen graph.HiddenStep object)

theorem mem_hiddenBelow {object next : Nat} :
    next ∈ graph.hiddenBelow object ↔
      next < graph.objects.size ∧ Relation.TransGen graph.HiddenStep object next := by
  simp [hiddenBelow]

theorem card_hiddenBelow_le (graph : Graph) (object : Nat) :
    (graph.hiddenBelow object).card ≤ graph.objects.size := by
  have hsubset : graph.hiddenBelow object ⊆ Finset.range graph.objects.size :=
    fun _ hnext => Finset.mem_range.mpr (mem_hiddenBelow.mp hnext).1
  simpa using Finset.card_le_card hsubset

theorem card_hiddenBelow_lt (hcycle : graph.NoHiddenCycle) {object next : Nat}
    (hstep : graph.HiddenStep object next) (hnext : next < graph.objects.size) :
    (graph.hiddenBelow next).card < (graph.hiddenBelow object).card := by
  refine Finset.card_lt_card (Finset.ssubset_iff_of_subset ?_ |>.mpr ⟨next, ?_, ?_⟩)
  · intro other hother
    obtain ⟨hlt, hsteps⟩ := mem_hiddenBelow.mp hother
    exact mem_hiddenBelow.mpr ⟨hlt, .head hstep hsteps⟩
  · exact mem_hiddenBelow.mpr ⟨hnext, .single hstep⟩
  · exact fun hself => hcycle next (mem_hiddenBelow.mp hself).2

/-- A bound on the callbacks that a reference to an object leads to, up to the next objects that
show their slots. -/
noncomputable def weight (graph : Graph) (object : Nat) : Nat :=
  if object < graph.objects.size ∧ graph.hidesSlot object = true then
    (graph.referenceCount + 1) ^ ((graph.hiddenBelow object).card + 1)
  else 1

theorem one_le_weight (graph : Graph) (object : Nat) : 1 ≤ graph.weight object := by
  unfold weight
  split
  · exact Nat.one_le_pow _ _ (Nat.succ_pos _)
  · exact le_rfl

theorem weight_le (graph : Graph) (object : Nat) :
    graph.weight object ≤ (graph.referenceCount + 1) ^ (graph.objects.size + 1) := by
  unfold weight
  split
  · exact Nat.pow_le_pow_right (Nat.succ_pos _)
      (Nat.succ_le_succ (graph.card_hiddenBelow_le object))
  · exact Nat.one_le_pow _ _ (Nat.succ_pos _)

theorem length_references_le (graph : Graph) {object : Nat}
    (hobject : object < graph.objects.size) :
    (graph.references object).length ≤ graph.referenceCount := by
  have hle : (graph.references object).length ≤
      ∑ object ∈ Finset.range graph.objects.size, (graph.references object).length :=
    Finset.single_le_sum (f := fun object => (graph.references object).length)
      (fun _ _ => Nat.zero_le _) (Finset.mem_range.mpr hobject)
  rw [sum_references] at hle
  exact hle.trans (Nat.le_add_left _ _)

/-- What an object that hides its slot refers to weighs less than the object itself. -/
theorem sum_weight_references_lt (hcycle : graph.NoHiddenCycle) {object : Nat}
    (hhidden : graph.hidesSlot object = true) :
    ((graph.references object).map graph.weight).sum < graph.weight object := by
  rcases Nat.lt_or_ge object graph.objects.size with hobject | houtside
  · have hweight : ∀ weight ∈ (graph.references object).map graph.weight,
        weight ≤ (graph.referenceCount + 1) ^ (graph.hiddenBelow object).card := by
      intro weight hmem
      obtain ⟨next, hnext, rfl⟩ := List.mem_map.mp hmem
      unfold Graph.weight
      split
      next hboth =>
        exact Nat.pow_le_pow_right (Nat.succ_pos _)
          (card_hiddenBelow_lt hcycle ⟨hhidden, hnext, hboth.2⟩ hboth.1)
      next => exact Nat.one_le_pow _ _ (Nat.succ_pos _)
    calc ((graph.references object).map graph.weight).sum
        ≤ (graph.references object).length *
            (graph.referenceCount + 1) ^ (graph.hiddenBelow object).card := by
          simpa using List.sum_le_card_nsmul _ _ hweight
      _ ≤ graph.referenceCount * (graph.referenceCount + 1) ^ (graph.hiddenBelow object).card :=
          Nat.mul_le_mul_right _ (graph.length_references_le hobject)
      _ < (graph.referenceCount + 1) * (graph.referenceCount + 1) ^
            (graph.hiddenBelow object).card :=
          Nat.mul_lt_mul_of_pos_right (Nat.lt_succ_self _) (Nat.pow_pos (Nat.succ_pos _))
      _ = graph.weight object := by rw [weight, if_pos ⟨hobject, hhidden⟩, Nat.pow_succ']
  · rw [references_of_not_object houtside]
    exact graph.one_le_weight object

/-- The weight of all references there are, those of the roots included. -/
noncomputable def totalWeight (graph : Graph) : Nat :=
  (graph.roots.map graph.weight).sum +
    ∑ object ∈ Finset.range graph.objects.size, ((graph.references object).map graph.weight).sum

theorem sum_weight_le (graph : Graph) (objects : List Nat) :
    (objects.map graph.weight).sum ≤
      objects.length * (graph.referenceCount + 1) ^ (graph.objects.size + 1) := by
  have hle := List.sum_le_card_nsmul (objects.map graph.weight)
    ((graph.referenceCount + 1) ^ (graph.objects.size + 1)) <| by
      intro weight hmem
      obtain ⟨object, _, rfl⟩ := List.mem_map.mp hmem
      exact graph.weight_le object
  simpa using hle

theorem totalWeight_lt_patience (graph : Graph) : graph.totalWeight < graph.patience := by
  have hreferences := Finset.sum_le_sum fun object (_ : object ∈ Finset.range graph.objects.size) =>
    graph.sum_weight_le (graph.references object)
  rw [← Finset.sum_mul, sum_references] at hreferences
  have htotal : graph.totalWeight ≤
      graph.referenceCount * (graph.referenceCount + 1) ^ (graph.objects.size + 1) := by
    rw [totalWeight, referenceCount, Nat.add_mul]
    exact Nat.add_le_add (graph.sum_weight_le graph.roots) hreferences
  calc graph.totalWeight
      ≤ graph.referenceCount * (graph.referenceCount + 1) ^ (graph.objects.size + 1) := htotal
    _ ≤ (graph.referenceCount + 1) ^ (graph.objects.size + 2) := by
        rw [Nat.pow_succ' (n := graph.objects.size + 1)]
        exact Nat.mul_le_mul_right _ (Nat.le_succ _)
    _ ≤ (graph.objects.size + 1) * (graph.referenceCount + 1) ^ (graph.objects.size + 2) :=
        Nat.le_mul_of_pos_left _ (Nat.succ_pos _)
    _ < graph.patience := by
        rw [patience, Nat.pow_eq]
        omega

end ExhaustionGuard.Heap.Graph
