import ExhaustionGuard.Heap.Graph
import Mathlib.Tactic.Common

/-! # Tag slots of a graph

Setting a slot changes that slot alone. The slot of a class may be the slot of
an object, but no two classes share one.
-/

namespace ExhaustionGuard.Heap.Graph

variable {graph : Graph}

/-- Every object and every class has a tag slot. -/
structure HasSlots (graph : Graph) : Prop where
  objects : graph.slots.size = graph.objects.size
  classes : graph.classSlots.size = graph.signatures.size

/-- The slot that a class has of its own, which counts only while no object represents it. -/
def ownSlot (graph : Graph) (cls : Nat) : Int :=
  graph.classSlots.getD cls 0

/-- The signature of a class as a text. -/
def signature (graph : Graph) (cls : Nat) : String :=
  Text.decodeLossy (graph.signatures.getD cls [])

/-- Two graphs that differ at most in what their slots hold. -/
structure Alike (left right : Graph) : Prop where
  signatures : left.signatures = right.signatures
  objects : left.objects = right.objects
  roots : left.roots = right.roots

namespace Alike

variable {left middle right : Graph}

theorem refl (graph : Graph) : graph.Alike graph := ⟨rfl, rfl, rfl⟩

theorem symm (alike : left.Alike right) : right.Alike left :=
  ⟨alike.signatures.symm, alike.objects.symm, alike.roots.symm⟩

theorem trans (first : left.Alike middle) (second : middle.Alike right) : left.Alike right :=
  ⟨first.signatures.trans second.signatures, first.objects.trans second.objects,
    first.roots.trans second.roots⟩

theorem references_eq (alike : left.Alike right) (object : Nat) :
    left.references object = right.references object := by
  simp only [references, alike.objects]

theorem signature_eq (alike : left.Alike right) (cls : Nat) :
    left.signature cls = right.signature cls := by
  simp only [signature, alike.signatures]

theorem classObject?_eq (alike : left.Alike right) (cls : Nat) :
    left.classObject? cls = right.classObject? cls := by
  simp only [classObject?, alike.objects]

end Alike

theorem getD_setIfInBounds (slots : Array Int) (place other : Nat) (tag : Int) :
    (slots.setIfInBounds place tag).getD other 0 =
      if other = place ∧ place < slots.size then tag else slots.getD other 0 := by
  simp only [Array.getD_eq_getD_getElem?, Array.getElem?_setIfInBounds]
  by_cases hother : place = other
  · subst hother
    by_cases hplace : place < slots.size <;> simp [hplace]
  · simp [hother, Ne.symm hother]

theorem alike_setSlot (graph : Graph) (object : Nat) (tag : Int) :
    (graph.setSlot object tag).Alike graph := ⟨rfl, rfl, rfl⟩

theorem HasSlots.setSlot (has : graph.HasSlots) (object : Nat) (tag : Int) :
    (graph.setSlot object tag).HasSlots :=
  ⟨by simpa [Graph.setSlot] using has.objects, has.classes⟩

theorem slot_setSlot (has : graph.HasSlots) (object other : Nat) (tag : Int) :
    (graph.setSlot object tag).slot other =
      if other = object ∧ object < graph.objects.size then tag else graph.slot other := by
  rw [slot, setSlot, getD_setIfInBounds, has.objects, slot]

theorem references_of_not_object {object : Nat} (hobject : graph.objects.size ≤ object) :
    graph.references object = [] := by
  rw [references, Array.getElem?_eq_none hobject]

theorem slot_of_not_object (has : graph.HasSlots) {object : Nat}
    (hobject : graph.objects.size ≤ object) : graph.slot object = 0 := by
  have hnone : graph.slots[object]? = none := by
    rw [Array.getElem?_eq_none_iff, has.objects]
    exact hobject
  simp [slot, hnone]

@[simp]
theorem setSlot_slot (graph : Graph) (object : Nat) :
    graph.setSlot object (graph.slot object) = graph := by
  have hslots : graph.slots.setIfInBounds object (graph.slot object) = graph.slots := by
    apply Array.ext (by simp)
    intro place _ hplace
    rw [Array.getElem_setIfInBounds hplace, slot, Array.getD_eq_getD_getElem?]
    split
    next heq => rw [heq, Array.getElem?_eq_getElem hplace, Option.getD_some]
    next => rfl
  rw [setSlot, hslots]

theorem setSlot_of_not_object (has : graph.HasSlots) {object : Nat}
    (hobject : graph.objects.size ≤ object) (tag : Int) : graph.setSlot object tag = graph := by
  have hslots : graph.slots.setIfInBounds object tag = graph.slots := by
    rw [Array.setIfInBounds, dif_neg (by rw [has.objects]; omega)]
  rw [setSlot, hslots]

/-! ## Setting the tag of a class -/

theorem classObject?_eq_some {cls object : Nat} (hclass : graph.classObject? cls = some object) :
    ∃ h : object < graph.objects.size, graph.objects[object].represents = some cls := by
  obtain ⟨hlt, hrepresents, _⟩ := Array.findIdx?_eq_some_iff_getElem.mp hclass
  exact ⟨hlt, by simpa using hrepresents⟩

/-- An object represents one class, so two classes never share a slot. -/
theorem classObject?_injective {left right object : Nat}
    (hleft : graph.classObject? left = some object)
    (hright : graph.classObject? right = some object) : left = right := by
  obtain ⟨_, hleft⟩ := classObject?_eq_some hleft
  obtain ⟨_, hright⟩ := classObject?_eq_some hright
  exact Option.some.inj (hleft.symm.trans hright)

theorem alike_setClassTag (graph : Graph) (cls : Nat) (tag : Int) :
    (graph.setClassTag cls tag).Alike graph := by
  unfold setClassTag
  split <;> exact ⟨rfl, rfl, rfl⟩

theorem HasSlots.setClassTag (has : graph.HasSlots) (cls : Nat) (tag : Int) :
    (graph.setClassTag cls tag).HasSlots := by
  unfold Graph.setClassTag
  split
  next object _ => exact has.setSlot object tag
  next => exact ⟨has.objects, by simpa using has.classes⟩

theorem classTag_of_unloaded {cls : Nat} (hcls : graph.signatures.size ≤ cls) :
    graph.classTag cls = 0 := by
  rw [classTag, if_neg (Nat.not_lt.mpr hcls)]

/-- The tag of a loaded class stands in one slot: that of its class object, or its own. -/
theorem classTag_of_loaded {cls : Nat} (hcls : cls < graph.signatures.size) :
    graph.classTag cls = (graph.classObject? cls).elim (graph.ownSlot cls) graph.slot := by
  rw [classTag, if_pos hcls]
  cases graph.classObject? cls <;> rfl

theorem slot_setClassTag (has : graph.HasSlots) (cls object : Nat) (tag : Int) :
    (graph.setClassTag cls tag).slot object =
      if graph.classObject? cls = some object then tag else graph.slot object := by
  unfold setClassTag
  split
  next place hplace =>
    obtain ⟨hlt, _⟩ := classObject?_eq_some hplace
    simp [slot_setSlot has, hplace, hlt, eq_comm]
  next hnone =>
    simp [hnone, slot]

theorem ownSlot_setClassTag (has : graph.HasSlots) (cls other : Nat) (tag : Int) :
    (graph.setClassTag cls tag).ownSlot other =
      if graph.classObject? cls = none ∧ other = cls ∧ cls < graph.signatures.size then tag
      else graph.ownSlot other := by
  unfold setClassTag
  split
  next place hplace =>
    rw [if_neg (by simp [hplace])]
    rfl
  next hnone => simp only [hnone, ownSlot, getD_setIfInBounds, has.classes, true_and]

theorem classTag_setClassTag (has : graph.HasSlots) {cls : Nat}
    (hcls : cls < graph.signatures.size) (other : Nat) (tag : Int) :
    (graph.setClassTag cls tag).classTag other =
      if other = cls then tag else graph.classTag other := by
  have alike := alike_setClassTag graph cls tag
  rcases Nat.lt_or_ge other graph.signatures.size with hother | hother
  · rw [classTag_of_loaded (by rwa [alike.signatures]), classTag_of_loaded hother,
      alike.classObject?_eq]
    cases hobject : graph.classObject? other with
    | some object =>
        have hshared : graph.classObject? cls = some object ↔ other = cls :=
          ⟨fun hclass => classObject?_injective hobject hclass, fun heq => heq ▸ hobject⟩
        simp [slot_setClassTag has, hshared]
    | none =>
        have hown : (graph.classObject? cls = none ∧ other = cls ∧ cls < graph.signatures.size) ↔
            other = cls :=
          ⟨fun hall => hall.2.1, fun heq => ⟨heq ▸ hobject, heq, hcls⟩⟩
        simp [ownSlot_setClassTag has, hown]
  · have hne : other ≠ cls := by omega
    rw [classTag_of_unloaded (by rwa [alike.signatures]), classTag_of_unloaded hother,
      if_neg hne]

end ExhaustionGuard.Heap.Graph
