import ExhaustionGuard.Proofs.Heap.Shadowing
import ExhaustionGuard.Proofs.Jvm.HeapService

/-! # A Java machine and a host in memory agree

A capture over the tool interface finds what a capture over a host in memory
finds, if that host has the same heap and no class for the objects that hide
their slots. If no object hides its slot, both leave the same tags and show the
visitor as many objects.
-/

namespace ExhaustionGuard

namespace Heap

/-- How many objects a capture shows to its visitor. -/
def captureVisits {σ : Type} (host : HeapHost σ) (epoch : Nat) (state : σ) : Nat :=
  match (tagLoadedClasses host).finish state with
  | (.ok tags, tagged) =>
      (host.followReferences tagged).visits (countingVisitor tags (stampOf epoch)) .empty
  | (.error _, _) => 0

theorem captureVisits_of_ok {σ : Type} {host : HeapHost σ} {state tagged : σ} {tags : ClassTags}
    (htagged : (tagLoadedClasses host).finish state = (.ok tags, tagged)) (epoch : Nat) :
    captureVisits host epoch state =
      (host.followReferences tagged).visits (countingVisitor tags (stampOf epoch)) .empty := by
  rw [captureVisits, htagged]

theorem Graph.Alike.noHiddenCycle {left right : Graph} (alike : left.Alike right)
    (hcycle : right.NoHiddenCycle) : left.NoHiddenCycle := by
  intro object hsteps
  refine hcycle object (hsteps.lift id fun _ _ hstep => ?_)
  simpa only [Graph.HiddenStep, alike.hidesSlot_eq, alike.references_eq, id] using hstep

theorem Graph.Alike.allShown {left right : Graph} (alike : left.Alike right)
    (hshown : right.AllShown) : left.AllShown := by
  simpa only [Graph.AllShown, alike.roots, alike.hidesSlot_eq, alike.references_eq] using hshown

theorem Prepared.numbered {graph : Graph} (has : graph.HasSlots) {classes : List ClassId}
    (hclasses : classes.Perm (List.range graph.signatures.size))
    (hsize : graph.signatures.size < classTagLimit) {epoch : Nat} (hepoch : IsEpoch epoch)
    (hfresh : graph.stamped epoch = ∅) (hcycle : graph.NoHiddenCycle) :
    Prepared (graph.numbered 1 classes)
      ((ClassTags.empty classTagLimit).assigned (classes.map graph.signature)) epoch := by
  obtain ⟨hslots, alike⟩ := Graph.numbered_shape has hclasses hsize
  refine ⟨hslots, Graph.stamped_numbered has hclasses hsize hepoch hfresh, fun cls hcls => ?_,
    alike.noHiddenCycle hcycle⟩
  exact Graph.names_numbered has hclasses hsize cls (by rwa [alike.signatures] at hcls)

/-- Two searches that have ended found the same after as many visits, whatever their slots held. -/
theorem Counted.eq_of_alike {left right : Graph} {epoch visits visits' : Nat}
    {seen seen' : Finset Nat} {search search' : Search Histogram}
    (hleft : Counted left epoch visits seen search) (alike : left.Alike right)
    (hright : Counted right epoch visits' seen' search') (hend : search.pending = 0)
    (hend' : search'.pending = 0) (hfresh : left.stamped epoch = ∅)
    (hfresh' : right.stamped epoch = ∅) :
    search.memory.entries = search'.memory.entries ∧ visits = visits' := by
  constructor
  · refine Histogram.entries_eq_of_get?_eq fun signature => ?_
    rw [hleft.census_eq, hright.census_eq, hleft.seen_eq_live hend, hright.seen_eq_live hend',
      hfresh, hfresh', alike.live_eq, alike.census_eq]
  · rw [hleft.visits_eq_of_end hend, hright.visits_eq_of_end hend', hfresh, hfresh',
      alike.visitsOf_eq]

end Heap

namespace Jvm.Tooling

open Heap

variable {J : Machine} {heap : J.State → Graph} {steady : J.State → Prop} {start : Graph}
  {tags : ClassTags} {epoch : Nat}

/-- A callback for an object that hides its slot does not reach the visitor. -/
theorem visible_reported_hidden (session : Session J) (reactions : List Reaction) {graph : Graph}
    {object : Nat} (hhidden : graph.hidesSlot object = true)
    (resume : Reaction → Option Int → CallbackWalk J.State) :
    visible session false reactions (.reported (graph.report object) resume) =
      visible session false (reactions ++ [.visitObjects]) (resume .visitObjects none) := by
  simp [visible, Graph.report, hhidden]

theorem visible_reported_shown (session : Session J) (reactions : List Reaction) {graph : Graph}
    {object : Nat} (hshown : graph.hidesSlot object = false)
    (resume : Reaction → Option Int → CallbackWalk J.State) :
    visible session false reactions (.reported (graph.report object) resume) =
      .reached (graph.reached object) fun response =>
        visible session (isPanic response.answer) (reactions ++ [reactionTo response.answer])
          (resume (reactionTo response.answer) (some response.slot)) := by
  simp [visible, Graph.report, hshown]

/-- A walk ends well, and where it ends nothing is pending for the search beside it. So many calls
of the visitor were made before the walk. -/
def EndsBeside (heap : J.State → Graph) (start : Graph) (tags : ClassTags) (epoch calls : Nat)
    (memory : Histogram) (walk : Walk (Session J)) : Prop :=
  (walk.run (countingVisitor tags (stampOf epoch)) memory).result = .ok () ∧
    ∃ callbacks visits seen search,
      Shadowed start epoch callbacks
        (calls + walk.visits (countingVisitor tags (stampOf epoch)) memory)
        (heap (walk.run (countingVisitor tags (stampOf epoch)) memory).host.state) 0 visits seen
        search ∧
      (walk.run (countingVisitor tags (stampOf epoch)) memory).memory = search.memory

theorem EndsBeside.reached {calls : Nat} {memory next : Histogram} {object : Reached}
    {response : Response} {resume : Response → Walk (Session J)}
    (hanswer : countingVisitor tags (stampOf epoch) object memory = (response, next))
    (hrest : EndsBeside heap start tags epoch (calls + 1) next (resume response)) :
    EndsBeside heap start tags epoch calls memory (.reached object resume) := by
  unfold EndsBeside at hrest ⊢
  rwa [Walk.run, Walk.visits, hanswer, ← Nat.add_assoc, Nat.add_right_comm]

/-- The walk of a machine that serves its heap ends well, as the search of the veiled heap does. -/
theorem endsBeside_visible (prepared : Prepared start tags epoch) {patience : Nat}
    {walk : CallbackWalk J.State} {graph : Graph} {pending : Multiset Nat}
    (searches : walk.Searches heap patience graph pending) {callbacks calls visits : Nat}
    {seen : Finset Nat} {search : Search Histogram}
    (shadowed : Shadowed start epoch callbacks calls graph pending visits seen search)
    (hpatience : start.totalWeight < callbacks + patience) (session : Session J)
    (reactions : List Reaction) :
    EndsBeside heap start tags epoch calls search.memory
      (visible session false reactions walk) := by
  -- each callback changes the graph, what is pending and the search beside the walk
  induction searches generalizing callbacks calls visits seen search reactions with
  | outOfPatience =>
      have hle := shadowed.callbacks_le_totalWeight
      omega
  | returned hgraph => exact ⟨rfl, callbacks, visits, seen, search, hgraph ▸ shadowed, rfl⟩
  | @reported patience object graph pending rest resume hpending hvisit hskip ihVisit ihSkip =>
      subst hpending
      have hhides := shadowed.alike.hidesSlot_eq object
      have hslot := Graph.slot_reached shadowed.hasSlots object
      cases hhidden : start.hidesSlot object with
      | true =>
          obtain ⟨visits', seen', search', hnext, hmemory⟩ := shadowed.hidden prepared hhidden
          rw [visible_reported_hidden _ _ (hhides.trans hhidden), ← hmemory]
          exact ihVisit none hnext (by omega) _
      | false =>
          rw [visible_reported_shown _ _ (hhides.trans hhidden)]
          by_cases hstamped : isStamped (stampOf epoch) (graph.slot object) = true
          · obtain ⟨visits', search', hnext, hmemory⟩ :=
              shadowed.pass ((shadowed.isStamped_slot prepared hhidden).mp hstamped)
            have hanswer : countingVisitor tags (stampOf epoch) (graph.reached object)
                search.memory = (⟨.prune, graph.slot object⟩, search'.memory) := by
              simp [hslot, hstamped, hmemory]
            have hgraph : graph.withSlot object (some (graph.slot object)) = graph :=
              graph.setSlot_slot object
            exact .reached hanswer (ihSkip _ (hgraph.symm ▸ hnext) (by omega) _)
          · obtain ⟨search', hnext, hmemory⟩ := shadowed.enter prepared hhidden
              ((shadowed.isStamped_slot prepared hhidden).not.mp hstamped)
            have hanswer : countingVisitor tags (stampOf epoch) (graph.reached object)
                search.memory =
                  (⟨.descend, restamp (stampOf epoch) (graph.slot object)⟩, search'.memory) := by
              simp [hslot, hstamped, hmemory]
            exact .reached hanswer (ihVisit _ hnext (by omega) _)

theorem endsBeside_followReferences (serves : J.Serves heap steady) {session : Session J}
    (hsteady : steady session.state) (prepared : Prepared (heap session.state) tags epoch) :
    EndsBeside heap (heap session.state) tags epoch 0 .empty (followReferences session) := by
  obtain ⟨walk, hbegins, hsearches⟩ := serves.followReferences hsteady
  have hpatience := (heap session.state).totalWeight_lt_patience
  rw [followReferences, if_pos (serves.provides _ hsteady), hbegins]
  exact endsBeside_visible prepared hsearches (.initial prepared) (by omega) _ []

variable {session : Session J}

/-- A capture over the tool interface ends well, with the search of the veiled heap beside it. -/
theorem exists_capture (serves : J.Serves heap steady) (hepoch : IsEpoch epoch)
    (hsteady : steady session.state) (has : (heap session.state).HasSlots)
    (hsize : (heap session.state).signatures.size < classTagLimit)
    (hfresh : (heap session.state).stamped epoch = ∅)
    (hcycle : (heap session.state).NoHiddenCycle) :
    ∃ classes tags histogram last callbacks visits seen search,
      (J.loadedClasses session.state).1.buffer = some classes ∧
      classes.Perm (List.range (heap session.state).signatures.size) ∧
      (capture Tooling.heap epoch).finish session = (.ok histogram, last) ∧
      Prepared ((heap session.state).numbered 1 classes) tags epoch ∧
      Shadowed ((heap session.state).numbered 1 classes) epoch callbacks
        (captureVisits Tooling.heap epoch session) (heap last.state) 0 visits seen search ∧
      histogram = search.memory := by
  obtain ⟨classes, listed, hbuffer, hlisted, hperm, hheap, hlistedSteady⟩ :=
    run_loadedClasses serves hsteady
  obtain ⟨tagged, htagged, hgraph, htaggedSteady⟩ := (numbers serves).finish_tagLoadedClasses
    (finish_named_of_ok hlisted _) hheap hlistedSteady hperm hsize
  have prepared := Prepared.numbered has hperm hsize hepoch hfresh hcycle
  have hends := endsBeside_followReferences serves htaggedSteady (hgraph.symm ▸ prepared)
  rw [hgraph] at hends
  obtain ⟨hresult, callbacks, visits, seen, search, hshadowed, hmemory⟩ := hends
  have hcapture := HostM.finish_bind_of_ok htagged fun tags =>
    countObjects Tooling.heap tags (stampOf epoch)
  rw [finish_countObjects, show Tooling.heap.followReferences tagged = followReferences tagged
    from rfl, hresult] at hcapture
  refine ⟨classes, _, _, _, callbacks, visits, seen, search, hbuffer, hperm, hcapture, prepared,
    ?_, hmemory⟩
  rwa [captureVisits_of_ok htagged, ← Nat.zero_add (Walk.visits _ _ _)]

end Jvm.Tooling

/-- A capture of a host in memory, with the search that it made. -/
theorem InMemory.exists_capture {host : InMemory} (hplan : host.plan = [])
    (has : host.graph.HasSlots) (hsize : host.graph.signatures.size < Heap.classTagLimit)
    (epoch : Nat) :
    ∃ histogram last seen search,
      (Heap.capture InMemory.heap epoch).finish host = (.ok histogram, last) ∧
      Heap.Counted (host.graph.numbered 1 (List.range host.graph.signatures.size)) epoch
        (Heap.captureVisits InMemory.heap epoch host) seen search ∧
      search.pending = 0 ∧ last.graph = search.graph ∧ histogram = search.memory := by
  obtain ⟨tagged, htagged, hgraph, htaggedPlan⟩ :=
    InMemory.numbers.finish_tagLoadedClasses (finish_loadedClasses hplan) rfl hplan (.refl _) hsize
  generalize (Heap.ClassTags.empty Heap.classTagLimit).assigned _ = tags at htagged
  obtain ⟨seen, search, hcounted, hlast, hmemory, hend⟩ :=
    Heap.exists_counted InMemory.shows has htagged epoch
  have hresult := InMemory.reliable.followReferences htaggedPlan
    (Heap.countingVisitor tags (Heap.stampOf epoch)) (Heap.neverPanics_countingVisitor _ _) .empty
  have hcapture := HostM.finish_bind_of_ok htagged fun tags =>
    Heap.countObjects InMemory.heap tags (Heap.stampOf epoch)
  rw [Heap.finish_countObjects, hresult] at hcapture
  refine ⟨_, _, seen, search, hcapture, ?_, hend hresult, hlast, hmemory⟩
  rwa [Heap.captureVisits_of_ok htagged, ← hgraph]

namespace Jvm.Tooling

open Heap

variable {J : Machine} {heap : J.State → Graph} {steady : J.State → Prop} {session : Session J}

/-- A capture over the tool interface of a machine and one over a host in memory, in whose heap the
objects that hide their slots have no class, give the same histogram. If all objects show their
slots, then both show the visitor as many objects, and they leave the same tags unless the classes
are listed in different orders. There are tags for all classes that a signed 32-bit count can tell
of. -/
theorem capture_agrees (serves : J.Serves heap steady) (captures : Captures)
    (hsteady : steady session.state) (has : (heap session.state).HasSlots)
    (hsize : (heap session.state).signatures.size < classTagLimit)
    (hfresh : (heap session.state).stamped captures.epoch = ∅)
    (hcycle : (heap session.state).NoHiddenCycle) {host : InMemory}
    (hgraph : host.graph = (heap session.state).veil) (hplan : host.plan = []) :
    ∃ histogram last other final,
      (capture Tooling.heap captures.epoch).finish session = (.ok histogram, last) ∧
      (capture InMemory.heap captures.epoch).finish host = (.ok other, final) ∧
      histogram.entries = other.entries ∧
      ((heap session.state).AllShown →
        captureVisits Tooling.heap captures.epoch session =
          captureVisits InMemory.heap captures.epoch host ∧
        ((J.loadedClasses session.state).1.buffer =
            some (List.range (heap session.state).signatures.size) →
          (∀ object, (heap last.state).slot object = final.graph.slot object) ∧
          ∀ cls, (heap last.state).ownSlot cls = final.graph.ownSlot cls)) := by
  obtain ⟨classes, tags, histogram, last, callbacks, visits, seen, search, hbuffer, hperm,
    hcapture, prepared, hshadowed, rfl⟩ :=
    exists_capture serves captures.isEpoch_epoch hsteady has hsize hfresh hcycle
  obtain ⟨other, final, seen', search', hother, hcounted, hend', hfinal, rfl⟩ :=
    InMemory.exists_capture hplan (hgraph ▸ has.veil) (by rw [hgraph]; exact hsize) captures.epoch
  have hend : search.pending = 0 := Multiset.le_zero.mp hshadowed.pending_le
  rw [hgraph, ← Graph.veil_numbered] at hcounted
  -- the order in which the classes are listed does not matter to what is counted
  have hlisted := (Graph.numbered_shape has hperm hsize).2
  have hranged := (Graph.numbered_shape has (.refl _) hsize).2
  have prepared' := Prepared.numbered has (.refl _) hsize captures.isEpoch_epoch hfresh hcycle
  obtain ⟨hentries, hvisits⟩ :=
    hshadowed.counted.eq_of_alike (hlisted.trans hranged.symm).veil hcounted hend hend'
      prepared.fresh prepared'.fresh
  refine ⟨search.memory, last, search'.memory, final, hcapture, hother, hentries, fun hshown => ?_⟩
  have hstart := hlisted.allShown hshown
  refine ⟨(hshadowed.shown hstart).2.trans hvisits, fun hordered => ?_⟩
  obtain rfl : classes = List.range (heap session.state).signatures.size :=
    Option.some.inj (hbuffer.symm.trans hordered)
  rw [hfinal]
  exact ⟨hshadowed.slot_eq_of_allShown hstart hcounted hend', hshadowed.ownSlot_eq hcounted⟩

/-- A machine whose heap has two objects that hide their slots, of which the first refers to the
second, and the class object of a class. -/
def hidingSlots : Scripted.Script where
  graph := {
    signatures := #["LNode;".toUTF8.toList, "Ljava/lang/Class;".toUTF8.toList]
    objects := #[
      ⟨0, 16, [1, 2], none, false⟩,
      ⟨0, 24, [2, 3], none, true⟩,
      ⟨1, 32, [3, 0], none, true⟩,
      ⟨1, 64, [0, 1], some 0, false⟩]
    roots := [0, 1]
    slots := #[7, 0, 0, 3]
    classSlots := #[0, 5] }
  heapUsage := none
  nonHeapUsage := none
  pools := []
  claimedSize := none
  missing := []
  rules := []
  heard := []

/-- The same machine with a heap that hides no slot, in which one has an old stamp. -/
def showingSlots : Scripted.Script :=
  { hidingSlots with graph := heapWithCycle.graph }

theorem isCalm_hidingSlots : Scripted.IsCalm hidingSlots :=
  ⟨rfl, rfl, by decide +kernel⟩

theorem isCalm_showingSlots : Scripted.IsCalm showingSlots :=
  ⟨rfl, rfl, by decide +kernel⟩

theorem capture_agrees_scripted :
    (∃ histogram last other final,
      (capture Tooling.heap Captures.none.next.epoch).finish
        (Session.start hidingSlots : Session Scripted.machine) = (.ok histogram, last) ∧
      (capture InMemory.heap Captures.none.next.epoch).finish
        { InMemory.empty with graph := hidingSlots.graph.veil } = (.ok other, final) ∧
      histogram.entries = other.entries) ∧
    ∃ histogram last other final,
      (capture Tooling.heap Captures.none.next.epoch).finish
        (Session.start showingSlots : Session Scripted.machine) = (.ok histogram, last) ∧
      (capture InMemory.heap Captures.none.next.epoch).finish
        { InMemory.empty with graph := heapWithCycle.graph.veil } = (.ok other, final) ∧
      histogram.entries = other.entries ∧
      captureVisits Tooling.heap Captures.none.next.epoch
          (Session.start showingSlots : Session Scripted.machine) =
        captureVisits InMemory.heap Captures.none.next.epoch
          { InMemory.empty with graph := heapWithCycle.graph.veil } ∧
      (∀ object, (Scripted.Script.graph last.state).slot object = final.graph.slot object) ∧
      ∀ cls, (Scripted.Script.graph last.state).ownSlot cls = final.graph.ownSlot cls := by
  have hepoch := Captures.isEpoch_epoch Captures.none.next
  constructor
  · have hsteady : Scripted.IsCalm (Session.start hidingSlots : Session Scripted.machine).state :=
      isCalm_hidingSlots
    have hslots : hidingSlots.graph.HasSlots := ⟨rfl, rfl⟩
    have hgraph : ({ InMemory.empty with graph := hidingSlots.graph.veil } : InMemory).graph =
      hidingSlots.graph.veil := rfl
    obtain ⟨histogram, last, other, final, hcapture, hother, hentries, -⟩ :=
      capture_agrees Scripted.serves Captures.none.next hsteady hslots (by decide)
        (Graph.stamped_eq_empty hslots hepoch (by decide)) (.of_lt (by decide)) hgraph rfl
    exact ⟨histogram, last, other, final, hcapture, hother, hentries⟩
  · have hsteady : Scripted.IsCalm (Session.start showingSlots : Session Scripted.machine).state :=
      isCalm_showingSlots
    have hslots : showingSlots.graph.HasSlots := ⟨rfl, rfl⟩
    have hgraph : ({ InMemory.empty with graph := heapWithCycle.graph.veil } : InMemory).graph =
      heapWithCycle.graph.veil := rfl
    have hshown : showingSlots.graph.AllShown := .of_lt (by decide) (by decide)
    obtain ⟨histogram, last, other, final, hcapture, hother, hentries, hsame⟩ :=
      capture_agrees Scripted.serves Captures.none.next hsteady hslots (by decide)
        (Graph.stamped_eq_empty hslots hepoch (by decide)) (.of_lt (by decide)) hgraph rfl
    obtain ⟨hvisits, htags⟩ := hsame hshown
    exact ⟨histogram, last, other, final, hcapture, hother, hentries, hvisits, htags rfl⟩

end Jvm.Tooling

end ExhaustionGuard
