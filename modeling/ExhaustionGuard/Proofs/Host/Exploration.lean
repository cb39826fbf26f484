import ExhaustionGuard.Host
import ExhaustionGuard.Proofs.Heap.Slots
import Mathlib.Data.Multiset.AddSub

/-! # What a walk may do

A search hands over the objects that are pending, one visit for each reference
and in any order; the visitor sees every tag as it stands at that moment, and
the references of an object become pending when it says so. A host shows a
graph if its operations act on that graph and its walks are such searches. Any
operation may fail, and a walk may break off after any visit.
-/

namespace ExhaustionGuard

namespace HostM

variable {σ α β : Type}

theorem finish_bind (first : HostM σ α) (next : α → HostM σ β) (state : σ) :
    (first >>= next).finish state =
      match first.finish state with
      | (.ok value, after) => (next value).finish after
      | (.error fault, after) => (.error fault, after) := by
  change (ExceptT.bindCont next (first.finish state).1).run (first.finish state).2 = _
  cases hfirst : first.finish state with
  | mk result after => cases result <;> rfl

theorem finish_bind_of_ok {first : HostM σ α} {state after : σ} {value : α}
    (hfirst : first.finish state = (.ok value, after)) (next : α → HostM σ β) :
    (first >>= next).finish state = (next value).finish after := by
  rw [finish_bind, hfirst]

/-- Two operations end well only if the first one does, and then the second. -/
theorem of_finish_bind_ok {first : HostM σ α} {next : α → HostM σ β} {state last : σ} {value : β}
    (hok : (first >>= next).finish state = (.ok value, last)) :
    ∃ between after, first.finish state = (.ok between, after) ∧
      (next between).finish after = (.ok value, last) := by
  rw [finish_bind] at hok
  split at hok
  next between after hfirst => exact ⟨between, after, hfirst, hok⟩
  next => simp at hok

/-- What the first of two operations brings about, and the second keeps, holds after both of them,
however they end. -/
theorem finish_bind_state (good : σ → Prop) {first : HostM σ α} {next : α → HostM σ β} {state : σ}
    (hfirst : good (first.finish state).2)
    (hnext : ∀ value after, first.finish state = (.ok value, after) → good after →
      good ((next value).finish after).2) :
    good ((first >>= next).finish state).2 := by
  rw [finish_bind]
  split
  next value after heq => exact hnext value after heq (by rwa [heq] at hfirst)
  next fault after heq => rwa [heq] at hfirst

end HostM

namespace Heap

variable {σ Memory : Type}

/-- How many objects a walk hands over to a visitor. -/
def Walk.visits (visit : Visitor Memory) : Walk σ → Memory → Nat
  | .ended _ _, _ => 0
  | .reached object resume, memory =>
      (resume (visit object memory).1).visits visit (visit object memory).2 + 1

/-- The visitor answers every object. -/
def NeverPanics (visit : Visitor Memory) : Prop :=
  ∀ object memory payload, (visit object memory).1.answer ≠ .panicked payload

/-- Where a search stands: the graph with the tags it has by now, the references still to be
followed, and what the visitor remembers. -/
structure Search (Memory : Type) where
  graph : Graph
  pending : Multiset Nat
  memory : Memory

namespace Search

/-- A search that has only the roots before it. -/
def start (graph : Graph) (memory : Memory) : Search Memory :=
  ⟨graph, graph.roots, memory⟩

/-- The search after a visit to an object, the rest of what was pending being given. -/
def visited (visit : Visitor Memory) (search : Search Memory) (object : Nat)
    (rest : Multiset Nat) : Search Memory :=
  let step := visit (search.graph.reached object) search.memory
  { graph := search.graph.setSlot object step.1.slot
    pending :=
      match step.1.answer with
      | .descend => search.graph.references object + rest
      | _ => rest
    memory := step.2 }

end Search

/-- A search leads to another by so many visits. -/
inductive Explores (visit : Visitor Memory) : Nat → Search Memory → Search Memory → Prop where
  | stay (search : Search Memory) : Explores visit 0 search search
  | visit {count : Nat} {search last : Search Memory} (object : Nat) (rest : Multiset Nat)
      (hpending : search.pending = object ::ₘ rest)
      (hrest : Explores visit count (search.visited visit object rest) last) :
      Explores visit (count + 1) search last

/-- Whatever the visitor, the walk is a search from a graph and its pending references. One that
ends well has left nothing pending, unless it made as many visits as it has patience for: a visitor
may lead it in circles. -/
structure Walk.Follows (walk : Walk σ) (heap : σ → Graph) (patience : Nat) (graph : Graph)
    (pending : Multiset Nat) : Prop where
  exists_search : ∀ {Memory : Type} (visit : Visitor Memory), NeverPanics visit →
    ∀ memory : Memory,
    ∃ search : Search Memory,
      Explores visit (walk.visits visit memory) ⟨graph, pending, memory⟩ search ∧
      heap (walk.run visit memory).host = search.graph ∧
      (walk.run visit memory).memory = search.memory ∧
      ((walk.run visit memory).result = .ok () →
        search.pending = 0 ∨ patience ≤ walk.visits visit memory)

namespace Walk.Follows

variable {heap : σ → Graph} {patience : Nat} {graph : Graph} {pending : Multiset Nat}

theorem broken {state : σ} (hgraph : heap state = graph) (fault : HostFault) :
    (Walk.ended (.error fault) state).Follows heap patience graph pending :=
  ⟨fun _ _ memory => ⟨⟨graph, pending, memory⟩, .stay _, hgraph, rfl, nofun⟩⟩

theorem ended {state : σ} (hgraph : heap state = graph) (hend : pending = 0 ∨ patience = 0) :
    (Walk.ended (.ok ()) state).Follows heap patience graph pending :=
  ⟨fun _ _ memory => ⟨⟨graph, pending, memory⟩, .stay _, hgraph, rfl,
    fun _ => hend.imp_right fun hzero => hzero.le⟩⟩

/-- One visit, followed by whatever the walk does with each answer. -/
theorem reached {resume : Response → Walk σ} {object : Nat} {rest : Multiset Nat}
    (hpending : pending = object ::ₘ rest)
    (hresume : ∀ response, (∀ payload, response.answer ≠ .panicked payload) →
      (resume response).Follows heap patience (graph.setSlot object response.slot)
        (match response.answer with
          | .descend => graph.references object + rest
          | _ => rest)) :
    (Walk.reached (graph.reached object) resume).Follows heap (patience + 1) graph pending := by
  constructor
  intro Memory visit hvisit memory
  obtain ⟨search, hexplores, hgraph, hmemory, hend⟩ :=
    (hresume (visit (graph.reached object) memory).1 (hvisit _ _)).exists_search visit hvisit
      (visit (graph.reached object) memory).2
  refine ⟨search, .visit object rest hpending hexplores, hgraph, hmemory, fun hok => ?_⟩
  exact (hend hok).imp_right Nat.succ_le_succ

theorem mono {walk : Walk σ} (follows : walk.Follows heap patience graph pending) {fewer : Nat}
    (hfewer : fewer ≤ patience) : walk.Follows heap fewer graph pending := by
  constructor
  intro Memory visit hvisit memory
  obtain ⟨search, hexplores, hgraph, hmemory, hend⟩ := follows.exists_search visit hvisit memory
  exact ⟨search, hexplores, hgraph, hmemory, fun hok => (hend hok).imp_right hfewer.trans⟩

end Walk.Follows

end Heap

namespace HeapHost

open Heap

variable {σ : Type}

/-- In some state the host tells this signature for a class. -/
def Tells (host : HeapHost σ) (cls : ClassId) (signature : String) : Prop :=
  ∃ state after, (host.classSignature cls).finish state = (.ok signature, after)

/-- The operations of a host act on the graph that its states show. The loaded classes may be
listed in any order, and a class tag that could not be set may be set or not. -/
structure Shows (host : HeapHost σ) (heap : σ → Graph) : Prop where
  loadedClasses : ∀ state, heap (host.loadedClasses.finish state).2 = heap state
  mem_loadedClasses : ∀ {state classes}, (host.loadedClasses.finish state).1 = .ok classes →
    ∀ cls, cls ∈ classes ↔ cls < (heap state).signatures.size
  classSignature : ∀ state cls, heap ((host.classSignature cls).finish state).2 = heap state
  signature_eq : ∀ {state cls signature}, cls < (heap state).signatures.size →
    ((host.classSignature cls).finish state).1 = .ok signature →
    signature = (heap state).signature cls
  setClassTag : ∀ {state cls} tag, ((host.setClassTag cls tag).finish state).1 = .ok () →
    heap ((host.setClassTag cls tag).finish state).2 = (heap state).setClassTag cls tag
  setClassTag_failed : ∀ {state cls} tag fault,
    ((host.setClassTag cls tag).finish state).1 = .error fault →
    heap ((host.setClassTag cls tag).finish state).2 = heap state ∨
      heap ((host.setClassTag cls tag).finish state).2 = (heap state).setClassTag cls tag
  followReferences : ∀ state, (host.followReferences state).Follows heap
    ((heap state).referenceCount + 1) (heap state) (heap state).roots

namespace Shows

variable {host : HeapHost σ} {heap : σ → Graph} {state after : σ} {cls : ClassId} {tag : Int}
  (shows : host.Shows heap)
include shows

theorem heap_of_listed {listing : Except HostFault (List ClassId)}
    (hlisted : host.loadedClasses.finish state = (listing, after)) : heap after = heap state := by
  have hheap := shows.loadedClasses state
  rwa [hlisted] at hheap

theorem heap_of_read {signature : Except HostFault String}
    (hread : (host.classSignature cls).finish state = (signature, after)) :
    heap after = heap state := by
  have hheap := shows.classSignature state cls
  rwa [hread] at hheap

theorem heap_of_set (hset : (host.setClassTag cls tag).finish state = (.ok (), after)) :
    heap after = (heap state).setClassTag cls tag := by
  have hheap := shows.setClassTag tag (congrArg Prod.fst hset)
  rwa [hset] at hheap

theorem heap_of_unset {fault : HostFault}
    (hset : (host.setClassTag cls tag).finish state = (.error fault, after)) :
    heap after = heap state ∨ heap after = (heap state).setClassTag cls tag := by
  have hheap := shows.setClassTag_failed tag fault (congrArg Prod.fst hset)
  rwa [hset] at hheap

end Shows

/-- A class tag that could not be set was not set. -/
def SetsOrFails (host : HeapHost σ) (heap : σ → Graph) : Prop :=
  ∀ state cls tag fault, ((host.setClassTag cls tag).finish state).1 = .error fault →
    heap ((host.setClassTag cls tag).finish state).2 = heap state

/-- No operation fails on the states in question, which the operations do not leave. -/
structure Reliable (host : HeapHost σ) (steady : σ → Prop) : Prop where
  loadedClasses : ∀ {state}, steady state →
    ∃ classes after, host.loadedClasses.finish state = (.ok classes, after) ∧ steady after
  classSignature : ∀ {state} cls, steady state →
    ∃ signature after, (host.classSignature cls).finish state = (.ok signature, after) ∧
      steady after
  setClassTag : ∀ {state} cls tag, steady state →
    ∃ after, (host.setClassTag cls tag).finish state = (.ok (), after) ∧ steady after
  followReferences : ∀ {state}, steady state → ∀ {Memory : Type} (visit : Visitor Memory),
    NeverPanics visit → ∀ memory : Memory,
    ((host.followReferences state).run visit memory).result = .ok ()

end HeapHost

end ExhaustionGuard
