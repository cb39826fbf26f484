import ExhaustionGuard.Proofs.Heap.Exactness

/-! # One capture after another

Captures leave stamps and class tags behind, whether they end well or break
off. Every attempt takes an epoch, so no slot carries the stamp of an attempt
still to come, and what earlier attempts left never hides an object.
-/

namespace ExhaustionGuard.Heap

variable {σ : Type} {host : HeapHost σ} {heap : σ → Graph}

/-- A slot carries no stamp of an epoch from the given one on. -/
def FreeFrom (first : Nat) (slot : Int) : Prop :=
  ∀ epoch, first ≤ epoch → epoch ≤ epochCount.toNat → markBits slot ≠ stampOf epoch

/-- All slots of a graph, those of its objects and those that its classes have of their own. -/
def AllSlots (p : Int → Prop) (graph : Graph) : Prop :=
  (∀ object, p (graph.slot object)) ∧ ∀ cls, p (graph.ownSlot cls)

namespace FreeFrom

variable {first later : Nat} {slot : Int}

theorem mono (free : FreeFrom first slot) (hle : first ≤ later) : FreeFrom later slot :=
  fun epoch hlater => free epoch (hle.trans hlater)

/-- The stamp of an epoch is none of a later one. -/
theorem restamp {epoch : Nat} (hlt : epoch < first) (slot : Int) :
    FreeFrom first (restamp (stampOf epoch) slot) := by
  intro later hfirst _
  rw [markBits_restamp]
  exact fun heq => (Nat.ne_of_lt (hlt.trans_le hfirst)) (stampOf_injective heq)

end FreeFrom

namespace AllSlots

variable {p q : Int → Prop} {graph : Graph}

theorem imp (hpq : ∀ slot, p slot → q slot) (all : AllSlots p graph) : AllSlots q graph :=
  ⟨fun object => hpq _ (all.1 object), fun cls => hpq _ (all.2 cls)⟩

theorem setClassTag (all : AllSlots p graph) (has : graph.HasSlots) {tag : Int} (htag : p tag)
    (cls : Nat) : AllSlots p (graph.setClassTag cls tag) := by
  constructor
  · intro object
    rw [Graph.slot_setClassTag has]
    split
    · exact htag
    · exact all.1 object
  · intro other
    rw [Graph.ownSlot_setClassTag has]
    split
    · exact htag
    · exact all.2 other

end AllSlots

end ExhaustionGuard.Heap
