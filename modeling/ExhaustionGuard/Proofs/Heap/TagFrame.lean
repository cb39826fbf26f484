import ExhaustionGuard.Proofs.Heap.Retagging
import ExhaustionGuard.Proofs.Host.InMemory

/-! # What a capture leaves in the slots

Whatever objects a host hands over, the visitor of a capture stamps those that
it enters and leaves every other slot as it is. A stamp keeps the class tag, so
class tags can be read at every moment of the walk, and from one capture to the
next.
-/

namespace ExhaustionGuard.Heap

variable {σ Memory : Type}

/-- Where a visitor stands that is called for objects of a graph: the slots as they are by now,
what it remembers, and how it answered each object so far. -/
structure Tour (Memory : Type) where
  graph : Graph
  memory : Memory
  answered : List (Nat × Answer)

namespace Tour

/-- The tour of a capture before the first call. -/
def start (graph : Graph) : Tour Histogram := ⟨graph, .empty, []⟩

/-- The tour after one more call. -/
def call (visit : Visitor Memory) (tour : Tour Memory) (object : Nat) : Tour Memory :=
  let step := visit (tour.graph.reached object) tour.memory
  { graph := tour.graph.setSlot object step.1.slot
    memory := step.2
    answered := tour.answered ++ [(object, step.1.answer)] }

/-- The tour after calls for objects one after another. -/
def callAll (visit : Visitor Memory) (tour : Tour Memory) (objects : List Nat) : Tour Memory :=
  objects.foldl (call visit) tour

theorem callAll_concat (visit : Visitor Memory) (tour : Tour Memory) (objects : List Nat)
    (object : Nat) :
    tour.callAll visit (objects ++ [object]) = (tour.callAll visit objects).call visit object :=
  List.foldl_concat _ _ _ _

/-- The objects that were entered. -/
def entered (tour : Tour Memory) : Set Nat :=
  { object | (object, Answer.descend) ∈ tour.answered }

end Tour

/-- With this visitor a walk calls it for these objects, one after another and each as it stands by
then. The walk may end in any way, and leaves the slots as the visitor left them. -/
inductive Walk.Calls (visit : Visitor Memory) (heap : σ → Graph) :
    Walk σ → Tour Memory → List Nat → Prop where
  | ended (result : Except HostFault Unit) {state : σ} {tour : Tour Memory}
      (hgraph : heap state = tour.graph) : Calls visit heap (.ended result state) tour []
  | reached {resume : Response → Walk σ} {tour : Tour Memory} {object : Nat} {rest : List Nat}
      (hrest : Calls visit heap
        (resume (visit (tour.graph.reached object) tour.memory).1) (tour.call visit object) rest) :
      Calls visit heap (.reached (tour.graph.reached object) resume) tour (object :: rest)

theorem Walk.Calls.graph_run {visit : Visitor Memory} {heap : σ → Graph} {walk : Walk σ}
    {tour : Tour Memory} {objects : List Nat} (hcalls : walk.Calls visit heap tour objects) :
    heap (walk.run visit tour.memory).host = (tour.callAll visit objects).graph := by
  induction hcalls with
  | ended _ hgraph => exact hgraph
  | reached _ ih => exact ih

/-! ## Every search is such a tour -/

/-- The objects that a walk hands over to a visitor. -/
def Walk.handed (visit : Visitor Memory) : Walk σ → Memory → List Reached
  | .ended _ _, _ => []
  | .reached object resume, memory =>
      object :: (resume (visit object memory).1).handed visit (visit object memory).2

/-- The objects of a tour as the visitor sees them. -/
def Tour.handed (visit : Visitor Memory) : Tour Memory → List Nat → List Reached
  | _, [] => []
  | tour, object :: rest => tour.graph.reached object :: (tour.call visit object).handed visit rest

/-- The visitor with a memory of all that it has seen. -/
def watching (visit : Visitor Memory) : Visitor (Memory × List Reached) := fun object memory =>
  ((visit object memory.1).1, (visit object memory.1).2, memory.2 ++ [object])

theorem Walk.run_watching (visit : Visitor Memory) (walk : Walk σ) (memory : Memory)
    (seen : List Reached) :
    walk.run (watching visit) (memory, seen) =
      ⟨(walk.run visit memory).result, (walk.run visit memory).host,
        ((walk.run visit memory).memory, seen ++ walk.handed visit memory)⟩ := by
  induction walk generalizing memory seen with
  | ended result host => simp [run, handed]
  | reached object resume ih => simp [run, handed, watching, ih]

theorem Explores.exists_tour {visit : Visitor Memory} {count : Nat}
    {search last : Search (Memory × List Reached)}
    (hexplores : Explores (watching visit) count search last) (answered : List (Nat × Answer)) :
    ∃ objects,
      last.memory.2 = search.memory.2 ++
        Tour.handed visit ⟨search.graph, search.memory.1, answered⟩ objects ∧
      last.graph =
        (Tour.callAll visit ⟨search.graph, search.memory.1, answered⟩ objects).graph := by
  induction hexplores generalizing answered with
  | stay search => exact ⟨[], (List.append_nil _).symm, rfl⟩
  | @visit _ search _ object rest _ _ ih =>
      obtain ⟨objects, hseen, hgraph⟩ := ih (answered ++
        [(object, (visit (search.graph.reached object) search.memory.1).1.answer)])
      exact ⟨object :: objects, hseen.trans (List.append_assoc _ _ _), hgraph⟩

theorem Walk.calls_of_handed {visit : Visitor Memory} {heap : σ → Graph} (walk : Walk σ)
    {tour : Tour Memory} {objects : List Nat}
    (hhanded : walk.handed visit tour.memory = tour.handed visit objects)
    (hgraph : heap (walk.run visit tour.memory).host = (tour.callAll visit objects).graph) :
    walk.Calls visit heap tour objects := by
  induction walk generalizing tour objects with
  | ended result host =>
      cases objects with
      | nil => exact .ended result hgraph
      | cons object rest => simp [handed, Tour.handed] at hhanded
  | reached object resume ih =>
      cases objects with
      | nil => simp [handed, Tour.handed] at hhanded
      | cons number rest =>
          obtain ⟨rfl, hrest⟩ := List.cons.inj hhanded
          exact .reached (ih _ hrest hgraph)

/-- A visitor that goes along with a walk cannot tell it from a tour of the graph: it sees each
object as it stands by then. -/
theorem Walk.Follows.exists_calls {visit : Visitor Memory} {heap : σ → Graph} {walk : Walk σ}
    {patience : Nat} {graph : Graph} {pending : Multiset Nat}
    (follows : walk.Follows heap patience graph pending) (hvisit : NeverPanics visit)
    (memory : Memory) (answered : List (Nat × Answer)) :
    ∃ objects, walk.Calls visit heap ⟨graph, memory, answered⟩ objects := by
  -- what the watching visitor has seen is at once what the walk and what the search handed over
  obtain ⟨search, hexplores, hgraph, hmemory, -⟩ := follows.exists_search (watching visit)
    (fun object memory => hvisit object memory.1) (memory, [])
  rw [Walk.run_watching] at hgraph hmemory
  obtain ⟨objects, hseen, htour⟩ := hexplores.exists_tour answered
  refine ⟨objects, walk.calls_of_handed ?_ (hgraph.trans htour)⟩
  rw [← hmemory] at hseen
  exact hseen

/-! ## One call -/

section Calls

variable {tags : ClassTags} {epoch : Nat} {start : Graph} {tour : Tour Histogram}

theorem call_of_stamped (has : tour.graph.HasSlots) {object : Nat}
    (hstamped : isStamped (stampOf epoch) (tour.graph.slot object) = true) :
    tour.call (countingVisitor tags (stampOf epoch)) object =
      { tour with answered := tour.answered ++ [(object, .prune)] } := by
  simp [Tour.call, Graph.slot_reached has, hstamped]

theorem call_of_unstamped (has : tour.graph.HasSlots) {object : Nat}
    (hstamped : ¬ isStamped (stampOf epoch) (tour.graph.slot object) = true) :
    tour.call (countingVisitor tags (stampOf epoch)) object =
      { graph := tour.graph.setSlot object (restamp (stampOf epoch) (tour.graph.slot object))
        memory := countObject tags (tour.graph.reached object) tour.memory
        answered := tour.answered ++ [(object, .descend)] } := by
  simp [Tour.call, Graph.slot_reached has, hstamped]

/-- What a tour has done to the graph that it began with. -/
structure Framed (start : Graph) (epoch : Nat) (tour : Tour Histogram) : Prop where
  alike : tour.graph.Alike start
  hasSlots : tour.graph.HasSlots
  entered : ∀ object < start.objects.size, object ∈ tour.entered →
    tour.graph.slot object = restamp (stampOf epoch) (start.slot object) ∧
      ¬ isStamped (stampOf epoch) (start.slot object) = true
  untouched : ∀ object, object ∉ tour.entered ∨ start.objects.size ≤ object →
    tour.graph.slot object = start.slot object
  ownSlot : ∀ cls, tour.graph.ownSlot cls = start.ownSlot cls

namespace Framed

theorem initial (has : start.HasSlots) : Framed start epoch (.start start) where
  alike := .refl start
  hasSlots := has
  entered := by simp [Tour.start, Tour.entered]
  untouched := fun _ _ => rfl
  ownSlot := fun _ => rfl

/-- Passing over an object. -/
theorem pass (framed : Framed start epoch tour) (object : Nat) :
    Framed start epoch { tour with answered := tour.answered ++ [(object, .prune)] } := by
  have hentered : Tour.entered { tour with answered := tour.answered ++ [(object, .prune)] } =
      tour.entered := by
    ext other
    simp [Tour.entered]
  exact ⟨framed.alike, framed.hasSlots, hentered ▸ framed.entered, hentered ▸ framed.untouched,
    framed.ownSlot⟩

/-- Entering an object, which then was not entered before. -/
theorem enter (framed : Framed start epoch tour) {object : Nat}
    (hstamped : ¬ isStamped (stampOf epoch) (tour.graph.slot object) = true)
    (memory : Histogram) :
    Framed start epoch
      { graph := tour.graph.setSlot object (restamp (stampOf epoch) (tour.graph.slot object))
        memory := memory
        answered := tour.answered ++ [(object, .descend)] } := by
  -- an object that was entered carries the stamp, so this one still holds what it began with
  have hold : tour.graph.slot object = start.slot object := by
    apply framed.untouched
    by_contra hboth
    rw [not_or, not_not, Nat.not_le] at hboth
    rw [(framed.entered object hboth.2 hboth.1).1, isStamped_restamp] at hstamped
    exact hstamped rfl
  have hslot := fun other tag => Graph.slot_setSlot framed.hasSlots object other tag
  rw [framed.alike.objects] at hslot
  refine ⟨(Graph.alike_setSlot _ _ _).trans framed.alike, framed.hasSlots.setSlot _ _, ?_, ?_,
    framed.ownSlot⟩
  · intro other hother hmem
    rw [hslot]
    by_cases hsame : other = object
    · subst hsame
      rw [if_pos ⟨rfl, hother⟩, hold]
      exact ⟨rfl, hold ▸ hstamped⟩
    · rw [if_neg fun hboth => hsame hboth.1]
      exact framed.entered other hother (by simpa [Tour.entered, hsame] using hmem)
  · intro other hother
    rw [hslot, if_neg]
    · exact framed.untouched other (hother.imp_left fun hnew hmem =>
        hnew (List.mem_append_left _ hmem))
    · rintro ⟨rfl, hinside⟩
      exact hother.elim (fun hnew => hnew (by simp [Tour.entered])) (Nat.not_le.mpr hinside)

theorem call (framed : Framed start epoch tour) (tags : ClassTags) (object : Nat) :
    Framed start epoch (tour.call (countingVisitor tags (stampOf epoch)) object) := by
  by_cases hstamped : isStamped (stampOf epoch) (tour.graph.slot object) = true
  · rw [call_of_stamped framed.hasSlots hstamped]
    exact framed.pass object
  · rw [call_of_unstamped framed.hasSlots hstamped]
    exact framed.enter hstamped _

theorem callAll (has : start.HasSlots) (tags : ClassTags) (objects : List Nat) :
    Framed start epoch
      ((Tour.start start).callAll (countingVisitor tags (stampOf epoch)) objects) := by
  induction objects using List.reverseRecOn with
  | nil => exact .initial has
  | append_singleton objects object ih =>
      rw [Tour.callAll_concat]
      exact ih.call tags object

/-- An entered object shows that it was entered. -/
theorem slot_eq_iff (framed : Framed start epoch tour) {object : Nat}
    (hobject : object < start.objects.size) :
    tour.graph.slot object = start.slot object ↔ object ∉ tour.entered := by
  refine ⟨fun hsame hentered => ?_, fun hnot => framed.untouched object (.inl hnot)⟩
  obtain ⟨hslot, hstamped⟩ := framed.entered object hobject hentered
  rw [← hsame, hslot, isStamped_restamp] at hstamped
  exact hstamped rfl

theorem classBits_slot (framed : Framed start epoch tour) (object : Nat) :
    classBits (tour.graph.slot object) = classBits (start.slot object) := by
  by_cases hkept : object ∉ tour.entered ∨ start.objects.size ≤ object
  · rw [framed.untouched object hkept]
  · rw [not_or, not_not, Nat.not_le] at hkept
    rw [(framed.entered object hkept.2 hkept.1).1, classBits_restamp]

theorem classBits_classTag (framed : Framed start epoch tour) (cls : Nat) :
    classBits (tour.graph.classTag cls) = classBits (start.classTag cls) :=
  framed.alike.classBits_classTag framed.classBits_slot framed.ownSlot cls

end Framed

end Calls

/-! ## Captures -/

variable {host : HeapHost σ} {heap : σ → Graph}

/-- An object that is the class object of no loaded class. -/
def Graph.RepresentsNone (graph : Graph) (object : Nat) : Prop :=
  ∀ cls < graph.signatures.size, graph.classObject? cls ≠ some object

/-- One capture after another, however each of them ends. The host may change its graph before each
in any way that keeps the slot of the object and makes it no class object. -/
inductive Rounds (host : HeapHost σ) (heap : σ → Graph) (object : Nat) :
    Captures → σ → σ → Prop where
  | none (captures : Captures) (state : σ) : Rounds host heap object captures state state
  | capture {captures : Captures} {state before last : σ}
      (hslot : (heap before).slot object = (heap state).slot object)
      (has : (heap before).HasSlots) (hobject : (heap before).RepresentsNone object)
      (hrest : Rounds host heap object captures.next
        ((capture host captures.epoch).finish before).2 last) :
      Rounds host heap object captures state last

/-- A capture keeps the low bits of a slot that belongs to no class, however it ends. -/
theorem classBits_capture (shows : host.Shows heap) (epoch : Nat) {state : σ}
    (has : (heap state).HasSlots) {object : Nat} (hobject : (heap state).RepresentsNone object) :
    classBits ((heap ((capture host epoch).finish state).2).slot object) =
      classBits ((heap state).slot object) := by
  have htagging : (heap ((tagLoadedClasses host).finish state).2).slot object =
      (heap state).slot object := by
    obtain ⟨done, hloaded, hnumbered⟩ := exists_numbered_tagLoadedClasses shows state
    rw [hnumbered]
    exact (Graph.retagged_numbered has hloaded).slot object fun cls hcls =>
      hobject cls (hloaded cls hcls)
  refine HostM.finish_bind_state
    (fun after => classBits ((heap after).slot object) = classBits ((heap state).slot object))
    (congrArg classBits htagging) ?_
  intro tags tagged htagged hkept
  obtain ⟨seen, search, hcounted, hgraph, -, -⟩ := exists_counted shows has htagged epoch
  rw [finish_countObjects]
  simp only [hgraph, hcounted.slot]
  split
  · rw [classBits_restamp, hkept]
  · exact hkept

theorem classBits_rounds (shows : host.Shows heap) {object : Nat} {captures : Captures}
    {first last : σ} (rounds : Rounds host heap object captures first last) :
    classBits ((heap last).slot object) = classBits ((heap first).slot object) := by
  induction rounds with
  | none => rfl
  | capture hslot has hobject _ ih =>
      rw [ih, classBits_capture shows _ has hobject, hslot]

/-- Once all classes are tagged, each class holds its place in the listing and every other slot what
it held before. The walk then calls the visitor for objects of the graph, and may end in any way.
The objects that were entered are those whose slots have changed; such a slot keeps its low bits and
has the epoch above them, which makes it positive. At every moment of the walk the low bits of a
class are its tag, and the low bits of a slot that belongs to no class stay the same over any number
of captures. -/
theorem slots_of_capture (shows : host.Shows heap) (captures : Captures) {state tagged : σ}
    (has : (heap state).HasSlots) {tags : ClassTags}
    (htagged : (tagLoadedClasses host).finish state = (.ok tags, tagged)) :
    let walk := host.followReferences tagged
    let visit := countingVisitor tags (stampOf captures.epoch)
    let start := Tour.start (heap tagged)
    (∃ objects, walk.Calls visit heap start objects) ∧
    (∀ objects, walk.Calls visit heap start objects →
      heap ((capture host captures.epoch).finish state).2 = (start.callAll visit objects).graph) ∧
    (∃ classes listed, host.loadedClasses.finish state = (.ok classes, listed) ∧
      (heap state).Retagged classes (heap tagged) ∧
      ∀ called before cls behind, classes = before ++ cls :: behind → cls ∉ behind →
        classBits ((start.callAll visit called).graph.classTag cls) = before.length + 1) ∧
    (∀ called,
      (∀ cls, (start.callAll visit called).graph.ownSlot cls = (heap tagged).ownSlot cls) ∧
      ∀ object < (heap state).objects.size,
        let old := (heap tagged).slot object
        let new := (start.callAll visit called).graph.slot object
        (new = old ↔ (object, Answer.descend) ∉ (start.callAll visit called).answered) ∧
        ((object, Answer.descend) ∈ (start.callAll visit called).answered →
          new = (BitVec.ofInt 64 old &&& classMask ||| stampWord captures.epoch).toInt ∧
          0 < new)) ∧
    ∀ {object made first last}, Rounds host heap object made first last →
      classBits ((heap last).slot object) = classBits ((heap first).slot object) := by
  intro walk visit start
  obtain ⟨hslots, alike⟩ := tagLoadedClasses_shape shows has htagged
  have framed : ∀ called, Framed (heap tagged) captures.epoch (start.callAll visit called) :=
    fun called => .callAll hslots tags called
  obtain ⟨classes, listed, hlisted, hlength, retagged⟩ :=
    retagged_tagLoadedClasses shows has htagged
  refine ⟨?_, ?_, ⟨classes, listed, hlisted, retagged, ?_⟩, ?_, classBits_rounds shows⟩
  · exact (shows.followReferences tagged).exists_calls (neverPanics_countingVisitor tags _) _ _
  · intro objects hcalls
    rw [capture, HostM.finish_bind_of_ok htagged, finish_countObjects]
    exact hcalls.graph_run
  · intro called before cls behind hclasses hbehind
    have hplace : (before.length : Int) + 1 ≤ classes.length := by
      rw [hclasses, List.length_append, List.length_cons]
      omega
    rw [(framed called).classBits_classTag, retagged.classTag before cls behind hclasses hbehind]
    exact classBits_of_tag (by omega) (by omega)
  · intro called
    refine ⟨(framed called).ownSlot, fun object hobject => ?_⟩
    rw [← alike.objects] at hobject
    refine ⟨(framed called).slot_eq_iff hobject, fun hentered => ?_⟩
    have hepoch := captures.isEpoch_epoch
    rw [← restamp_eq_word hepoch, ((framed called).entered object hobject hentered).1]
    exact ⟨rfl, restamp_pos hepoch _⟩

/-! ## A walk that breaks off -/

/-- A heap with negative slots and the class object of a class, whose walk breaks off after three
calls. -/
def brokenWalk : InMemory :=
  { InMemory.empty with
    graph := {
      signatures := #["LNode;".toUTF8.toList, "Ljava/lang/Class;".toUTF8.toList]
      objects := #[⟨0, 16, [1, 2, 0], none, false⟩, ⟨1, 64, [0], some 0, false⟩,
        ⟨99, 8, [], none, false⟩]
      roots := [0, 1]
      slots := #[-5, 77, -7]
      classSlots := #[0, 9] }
    plan := [⟨.followReferences, .panicked .noText, none, some 3⟩] }

/-- That heap once its classes are tagged. -/
def brokenWalkTagged : InMemory := ((tagLoadedClasses InMemory.heap).finish brokenWalk).2

def brokenWalkTags : ClassTags := ⟨#["LNode;", "Ljava/lang/Class;"], classTagLimit⟩

/-- Its first capture. -/
def brokenWalkCapture : Except HostFault Histogram × InMemory :=
  (capture InMemory.heap Captures.none.epoch).finish brokenWalk

theorem slots_of_capture_broken_walk :
    brokenWalk.graph.HasSlots ∧ brokenWalk.graph.RepresentsNone 0 ∧
      (tagLoadedClasses InMemory.heap).finish brokenWalk = (.ok brokenWalkTags, brokenWalkTagged) ∧
      brokenWalkCapture.1 = .error (.panicked .noText) ∧
      ∃ objects,
        let answered := ((Tour.start brokenWalkTagged.graph).callAll
          (countingVisitor brokenWalkTags (stampOf Captures.none.epoch)) objects).answered
        (0, Answer.descend) ∈ answered ∧ (2, Answer.descend) ∉ answered ∧
        brokenWalkCapture.2.graph.slot 0 =
          (BitVec.ofInt 64 (-5) &&& classMask ||| stampWord Captures.none.epoch).toInt ∧
        0 < brokenWalkCapture.2.graph.slot 0 ∧
        classBits (brokenWalkCapture.2.graph.classTag 0) = 1 ∧
        classBits (brokenWalkCapture.2.graph.slot 0) = classBits (-5) := by
  have hslots : brokenWalk.graph.HasSlots := ⟨rfl, rfl⟩
  have hobject : brokenWalk.graph.RepresentsNone 0 := by
    unfold Graph.RepresentsNone
    decide +kernel
  have htagged : (tagLoadedClasses InMemory.heap).finish brokenWalk =
      (.ok brokenWalkTags, brokenWalkTagged) := by
    decide +kernel
  obtain ⟨⟨objects, hcalls⟩, hwalked, ⟨classes, listed, hlisted, _, htags⟩, hmoments, hrounds⟩ :=
    slots_of_capture InMemory.shows Captures.none hslots htagged
  have hgraph := hwalked objects hcalls
  have hclasses : (InMemory.heap.loadedClasses.finish brokenWalk).1 = .ok [0, 1] := rfl
  obtain rfl : [0, 1] = classes :=
    Except.ok.inj (hclasses.symm.trans (congrArg Prod.fst hlisted))
  have hclass := htags objects [] 0 [1] rfl (by decide)
  obtain ⟨-, hslot⟩ := hmoments objects
  rw [← hgraph] at hclass hslot
  have hchanged : brokenWalkCapture.2.graph.slot 0 ≠ brokenWalkTagged.graph.slot 0 := by
    decide +kernel
  have hkept : brokenWalkCapture.2.graph.slot 2 = brokenWalkTagged.graph.slot 2 := by decide +kernel
  obtain ⟨hfirst, hstamped⟩ := hslot 0 (by decide)
  obtain ⟨hlast, -⟩ := hslot 2 (by decide)
  have hentered := not_not.mp (hfirst.not.mp hchanged)
  obtain ⟨hword, hpos⟩ := hstamped hentered
  have hold : brokenWalkTagged.graph.slot 0 = -5 := by decide +kernel
  rw [hold] at hword
  exact ⟨hslots, hobject, htagged, by with_unfolding_all rfl, objects, hentered,
    hlast.mp hkept, hword, hpos, hclass, hrounds (.capture rfl hslots hobject (.none _ _))⟩

end ExhaustionGuard.Heap
