import ExhaustionGuard.Proofs.Heap.Exactness
import ExhaustionGuard.Proofs.Heap.Veil

/-! # Tagging as numbering

Where tagging does not fail it does the same on every host: the classes are
numbered as they are listed, and nothing else changes. What is known of one
host is thereby known of all.
-/

namespace ExhaustionGuard

namespace Heap

/-- The graph after classes were tagged one after another, from a number on. -/
def Graph.numbered : Nat → List ClassId → Graph → Graph
  | _, [], graph => graph
  | number, cls :: rest, graph => numbered (number + 1) rest (graph.setClassTag cls number)

/-- The tags after signatures were given one after another. -/
def ClassTags.assigned (tags : ClassTags) (signatures : List String) : ClassTags :=
  { tags with signatures := tags.signatures ++ signatures }

end Heap

open Heap

variable {σ : Type} {host : HeapHost σ} {heap : σ → Graph} {steady : σ → Prop}

/-- On the states in question a host tells signatures and sets tags as its graph has it. -/
structure HeapHost.Numbers (host : HeapHost σ) (heap : σ → Graph) (steady : σ → Prop) :
    Prop where
  classSignature : ∀ {state cls}, steady state → cls < (heap state).signatures.size →
    ∃ after, (host.classSignature cls).finish state = (.ok ((heap state).signature cls), after) ∧
      heap after = heap state ∧ steady after
  setClassTag : ∀ {state cls} tag, steady state → cls < (heap state).signatures.size →
    ∃ after, (host.setClassTag cls tag).finish state = (.ok (), after) ∧
      heap after = (heap state).setClassTag cls tag ∧ steady after

theorem HeapHost.Numbers.finish_tagClasses (numbers : host.Numbers heap steady)
    {classes : List ClassId} {tags : ClassTags} (hlimit : tags.limit = classTagLimit)
    (hroom : (tags.size : Int) + classes.length < classTagLimit) {state : σ}
    (hsteady : steady state) (hloaded : ∀ cls ∈ classes, cls < (heap state).signatures.size) :
    ∃ after, (tagClasses host tags classes).finish state =
        (.ok (tags.assigned (classes.map (heap state).signature)), after) ∧
      heap after = (heap state).numbered (tags.size + 1) classes ∧ steady after := by
  induction classes generalizing tags state with
  | nil => exact ⟨state, by simp [tagClasses, ClassTags.assigned]; rfl, rfl, hsteady⟩
  | cons cls rest ih =>
      obtain ⟨hcls, hrest⟩ := List.forall_mem_cons.mp hloaded
      rw [List.length_cons] at hroom
      obtain ⟨asked, hasked, haskedHeap, haskedSteady⟩ := numbers.classSignature hsteady hcls
      obtain ⟨set, hset, hsetHeap, hsetSteady⟩ :=
        numbers.setClassTag (tags.size + 1 : Nat) haskedSteady (haskedHeap ▸ hcls)
      rw [haskedHeap] at hsetHeap
      have alike := Graph.alike_setClassTag (heap state) cls (tags.size + 1 : Nat)
      have hassign : tags.assign ((heap state).signature cls) =
          (.ok ((tags.size + 1 : Nat) : Int), tags.assigned [(heap state).signature cls]) := by
        rw [ClassTags.assign, if_pos (by rw [hlimit, ← ClassTags.size]; omega)]
        simp [ClassTags.assigned, ClassTags.size]
      have hsize : (tags.assigned [(heap state).signature cls]).size = tags.size + 1 := by
        simp [ClassTags.assigned, ClassTags.size]
      have hnext : (tags.assigned [(heap state).signature cls]).limit = classTagLimit := hlimit
      obtain ⟨last, hlast, hlastHeap, hlastSteady⟩ :=
        ih hnext (by rw [hsize]; omega) hsetSteady (by rwa [hsetHeap, alike.signatures])
      refine ⟨last, ?_, ?_, hlastSteady⟩
      · rw [tagClasses, HostM.finish_bind_of_ok hasked, hassign]
        refine (HostM.finish_bind_of_ok hset _).trans (hlast.trans ?_)
        have hsignatures : (heap set).signature = (heap state).signature :=
          funext fun cls => by rw [hsetHeap, alike.signature_eq]
        simp [hsignatures, ClassTags.assigned]
      · rw [hlastHeap, hsize, hsetHeap]
        rfl

/-- Once the classes are listed they have been numbered. -/
theorem HeapHost.Numbers.finish_tagLoadedClasses (numbers : host.Numbers heap steady)
    {classes : List ClassId} {state listed : σ}
    (hlisted : host.loadedClasses.finish state = (.ok classes, listed))
    (hheap : heap listed = heap state) (hsteady : steady listed)
    (hclasses : classes.Perm (List.range (heap state).signatures.size))
    (hsize : (heap state).signatures.size < classTagLimit) :
    ∃ tagged, (tagLoadedClasses host).finish state =
        (.ok ((ClassTags.empty classTagLimit).assigned (classes.map (heap state).signature)),
          tagged) ∧
      heap tagged = (heap state).numbered 1 classes ∧ steady tagged := by
  have hlength : classes.length = (heap state).signatures.size := by
    simpa using hclasses.length_eq
  have hroom : ((ClassTags.empty classTagLimit).size : Int) + classes.length < classTagLimit := by
    simpa [ClassTags.empty, ClassTags.size, hlength] using hsize
  obtain ⟨tagged, htagged, htaggedHeap, htaggedSteady⟩ :=
    numbers.finish_tagClasses rfl hroom hsteady <| by
      intro cls hcls
      rw [hheap]
      exact List.mem_range.mp (hclasses.mem_iff.mp hcls)
  rw [hheap] at htagged htaggedHeap
  exact ⟨tagged, (HostM.finish_bind_of_ok hlisted _).trans htagged, htaggedHeap, htaggedSteady⟩

namespace InMemory

theorem finish_loadedClasses {host : InMemory} (hplan : host.plan = []) :
    InMemory.heap.loadedClasses.finish host =
      (.ok (List.range host.graph.signatures.size), host.noteCall .loadedClasses) :=
  finish_perform_of_no_plan _ _ hplan

theorem numbers : InMemory.heap.Numbers InMemory.graph fun host => host.plan = [] where
  classSignature := fun hplan _ => ⟨_, finish_perform_of_no_plan _ _ hplan, rfl, hplan⟩
  setClassTag := by
    intro host cls tag hplan _
    exact ⟨_, finish_perform_of_no_plan .setClassTag
      (fun host => ((), { host with graph := host.graph.setClassTag cls tag })) hplan, rfl, hplan⟩

end InMemory

namespace Heap.Graph

variable {graph : Graph}

theorem good_numbered (good : Graph → Prop)
    (hgood : ∀ graph cls tag, IsClassTag tag → good graph → good (graph.setClassTag cls tag))
    {classes : List ClassId} {number : Nat} (hpos : 1 ≤ number)
    (hroom : (number : Int) + classes.length ≤ classTagLimit) (hgraph : good graph) :
    good (graph.numbered number classes) := by
  induction classes generalizing graph number with
  | nil => exact hgraph
  | cons cls rest ih =>
      rw [List.length_cons] at hroom
      have htag : IsClassTag number := ⟨by omega, by omega⟩
      exact ih (by omega) (by omega) (hgood graph cls number htag hgraph)

theorem veil_numbered (graph : Graph) (number : Nat) (classes : List ClassId) :
    (graph.numbered number classes).veil = graph.veil.numbered number classes := by
  induction classes generalizing graph number with
  | nil => rfl
  | cons cls rest ih => rw [numbered, numbered, ih, veil_setClassTag]

section Listing

variable (has : graph.HasSlots) {classes : List ClassId}
  (hclasses : classes.Perm (List.range graph.signatures.size))
  (hsize : graph.signatures.size < classTagLimit)
include has hclasses hsize

theorem numbered_shape :
    (graph.numbered 1 classes).HasSlots ∧ (graph.numbered 1 classes).Alike graph := by
  refine good_numbered (fun other => other.HasSlots ∧ other.Alike graph) ?_ le_rfl
    (by rw [hclasses.length_eq, List.length_range]; omega) ⟨has, .refl graph⟩
  intro other cls tag _ hother
  exact ⟨hother.1.setClassTag cls tag, (alike_setClassTag other cls tag).trans hother.2⟩

/-- A class tag is no stamp, so numbering stamps nothing. -/
theorem stamped_numbered {epoch : Nat} (hepoch : IsEpoch epoch)
    (hfresh : graph.stamped epoch = ∅) : (graph.numbered 1 classes).stamped epoch = ∅ := by
  refine (good_numbered (fun other => other.HasSlots ∧ other.stamped epoch = ∅) ?_ le_rfl
    (by rw [hclasses.length_eq, List.length_range]; omega) ⟨has, hfresh⟩).2
  rintro other cls tag ⟨hpos, hlimit⟩ ⟨hother, hclear⟩
  refine ⟨hother.setClassTag cls tag, Set.eq_empty_iff_forall_notMem.mpr fun object => ?_⟩
  change ¬ isStamped (stampOf epoch) ((other.setClassTag cls tag).slot object) = true
  rw [slot_setClassTag hother]
  split
  next =>
    rw [isStamped_iff, markBits_of_tag (by omega) hlimit]
    exact (stampOf_ne_zero hepoch).symm
  next => exact Set.eq_empty_iff_forall_notMem.mp hclear object

/-- The number of a class leads back to its signature. -/
theorem names_numbered :
    ∀ cls < graph.signatures.size,
      Names ((ClassTags.empty classTagLimit).assigned (classes.map graph.signature))
        (graph.numbered 1 classes) cls := by
  intro cls hcls
  have hmem : ∀ cls, cls ∈ classes ↔ cls < graph.signatures.size := fun cls => by
    rw [hclasses.mem_iff, List.mem_range]
  have hroom : ((ClassTags.empty classTagLimit).size : Int) + classes.length < classTagLimit := by
    simpa [ClassTags.empty, ClassTags.size, hclasses.length_eq] using hsize
  -- the host in memory with this graph numbers the classes in the same way
  let host : InMemory := { InMemory.empty with graph := graph }
  have hplan : host.plan = [] := rfl
  have hloaded : ∀ cls ∈ classes, cls < host.graph.signatures.size := fun cls => (hmem cls).mp
  obtain ⟨last, hlast, hgraph, -⟩ :=
    InMemory.numbers.finish_tagClasses rfl hroom hplan hloaded
  have hnames := names_tagClasses InMemory.shows has hloaded rfl hlast (.inl ((hmem cls).mpr hcls))
  rwa [hgraph] at hnames

end Listing

end Heap.Graph

end ExhaustionGuard
