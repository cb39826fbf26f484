import ExhaustionGuard.Proofs.Heap.Visiting
import ExhaustionGuard.Proofs.Host.InMemory

/-! # A capture is exact

A capture tells for each signature how many live objects it has and how many
bytes they take, however the references run. Objects that carry the stamp of
the capture beforehand are closed: they are not counted and not entered.
-/

namespace ExhaustionGuard.Heap

variable {σ : Type} {host : HeapHost σ} {heap : σ → Graph}

theorem finish_countObjects (host : HeapHost σ) (tags : ClassTags) (stamp : Int) (state : σ) :
    (countObjects host tags stamp).finish state =
      (((host.followReferences state).run (countingVisitor tags stamp) .empty).result.map fun _ =>
          ((host.followReferences state).run (countingVisitor tags stamp) .empty).memory,
        ((host.followReferences state).run (countingVisitor tags stamp) .empty).host) := rfl

/-- Wherever a search stands that began once the classes were tagged, its objects are counted. -/
theorem counted_of_explores (shows : host.Shows heap) {state tagged : σ}
    (has : (heap state).HasSlots) {tags : ClassTags}
    (htagged : (tagLoadedClasses host).finish state = (.ok tags, tagged)) {epoch count : Nat}
    {search : Search Histogram}
    (hexplores : Explores (countingVisitor tags (stampOf epoch)) count
      (.start (heap tagged) .empty) search) :
    ∃ seen, Counted (heap tagged) epoch count seen search := by
  obtain ⟨hslots, alike⟩ := tagLoadedClasses_shape shows has htagged
  have hnames : ∀ cls < (heap tagged).signatures.size, Names tags (heap tagged) cls := by
    rw [alike.signatures]
    exact fun cls hcls => names_tagLoadedClasses shows has htagged hcls
  obtain ⟨seen, hcounted⟩ := (Counted.initial hslots).explores hnames hexplores
  rw [Nat.zero_add] at hcounted
  exact ⟨seen, hcounted⟩

/-- In whatever order a search goes, it ends, and it ends after the same number of visits. -/
theorem visits_of_explores (shows : host.Shows heap) {state tagged : σ}
    (has : (heap state).HasSlots) {tags : ClassTags}
    (htagged : (tagLoadedClasses host).finish state = (.ok tags, tagged)) {epoch count : Nat}
    {search : Search Histogram}
    (hexplores : Explores (countingVisitor tags (stampOf epoch)) count
      (.start (heap tagged) .empty) search) :
    count ≤ (heap tagged).visitsOf ((heap tagged).stamped epoch) ∧
      (search.pending = 0 → count = (heap tagged).visitsOf ((heap tagged).stamped epoch)) := by
  obtain ⟨seen, hcounted⟩ := counted_of_explores shows has htagged hexplores
  have hle := hcounted.visits_add_pending_le
  exact ⟨by omega, hcounted.visits_eq_of_end⟩

/-- The walk after a tagging, wherever it may break off. -/
theorem exists_counted (shows : host.Shows heap) {state tagged : σ} (has : (heap state).HasSlots)
    {tags : ClassTags} (htagged : (tagLoadedClasses host).finish state = (.ok tags, tagged))
    (epoch : Nat) :
    let walk := host.followReferences tagged
    let visitor := countingVisitor tags (stampOf epoch)
    ∃ seen search, Counted (heap tagged) epoch (walk.visits visitor .empty) seen search ∧
      heap (walk.run visitor .empty).host = search.graph ∧
      (walk.run visitor .empty).memory = search.memory ∧
      ((walk.run visitor .empty).result = .ok () → search.pending = 0) := by
  intro walk visitor
  obtain ⟨search, hexplores, hgraph, hmemory, hend⟩ :=
    (shows.followReferences tagged).exists_search visitor (neverPanics_countingVisitor _ _) .empty
  obtain ⟨seen, hcounted⟩ := counted_of_explores shows has htagged hexplores
  refine ⟨seen, search, hcounted, hgraph, hmemory, fun hok => ?_⟩
  -- a walk that is out of patience has made more visits than a search can make
  have hle := hcounted.visits_add_pending_le
  have hbound := (heap tagged).visitsOf_le ((heap tagged).stamped epoch)
  exact (hend hok).resolve_right (by omega)

/-- What a capture has found when it ends well, as seen from the graph it began with. -/
theorem census_of_capture_ok (shows : host.Shows heap) {state last : σ}
    (has : (heap state).HasSlots) {epoch : Nat} {histogram : Histogram}
    (hok : (capture host epoch).finish state = (.ok histogram, last)) :
    ∃ tags tagged, (tagLoadedClasses host).finish state = (.ok tags, tagged) ∧
      ∀ signature, histogram.Tells signature
        ((heap state).census ((heap state).live ((heap tagged).stamped epoch)) signature) := by
  obtain ⟨tags, tagged, htagged, hwalk⟩ := HostM.of_finish_bind_ok hok
  obtain ⟨seen, search, hcounted, _, hmemory, hend⟩ := exists_counted shows has htagged epoch
  obtain ⟨_, alike⟩ := tagLoadedClasses_shape shows has htagged
  refine ⟨tags, tagged, htagged, fun signature => ?_⟩
  rw [finish_countObjects, Prod.mk.injEq] at hwalk
  obtain ⟨hresult, _⟩ := hwalk
  cases hended : ((host.followReferences tagged).run (countingVisitor tags (stampOf epoch))
      .empty).result with
  | error fault => simp [hended, Except.map] at hresult
  | ok _ =>
      rw [hended] at hresult
      obtain rfl := Except.ok.inj hresult
      apply Histogram.Tells.of_words
      rw [hmemory, hcounted.census_eq, hcounted.seen_eq_live (hend hended), alike.census_eq,
        alike.live_eq]

/-- Where nothing fails and there are tags for all classes, a capture ends well. -/
theorem exists_capture_ok {steady : σ → Prop} (reliable : host.Reliable steady) (epoch : Nat)
    {state : σ} (hsteady : steady state)
    (hclasses : ∀ classes after, host.loadedClasses.finish state = (.ok classes, after) →
      classes.length < classTagLimit) :
    ∃ tags tagged histogram last,
      (tagLoadedClasses host).finish state = (.ok tags, tagged) ∧
      ((host.followReferences tagged).run (countingVisitor tags (stampOf epoch)) .empty).result =
        .ok () ∧
      (capture host epoch).finish state = (.ok histogram, last) := by
  obtain ⟨tags, tagged, htagged, hafter⟩ := exists_tagLoadedClasses reliable hsteady hclasses
  have hended := reliable.followReferences hafter (countingVisitor tags (stampOf epoch))
    (neverPanics_countingVisitor _ _) .empty
  have hcapture := HostM.finish_bind_of_ok htagged fun tags =>
    countObjects host tags (stampOf epoch)
  rw [finish_countObjects, hended] at hcapture
  exact ⟨tags, tagged, _, _, htagged, hended, hcapture⟩

/-- On a host where nothing fails a capture counts every live object once, by one visit for each
root and for each reference of a live object. No other order of visits would take more or fewer. -/
theorem capture_exact (shows : host.Shows heap) {steady : σ → Prop}
    (reliable : host.Reliable steady) (captures : Captures) {state : σ} (hsteady : steady state)
    (has : (heap state).HasSlots)
    (hclasses : ∀ classes after, host.loadedClasses.finish state = (.ok classes, after) →
      classes.length < classTagLimit) :
    ∃ tags tagged histogram last,
      (tagLoadedClasses host).finish state = (.ok tags, tagged) ∧
      (capture host captures.epoch).finish state = (.ok histogram, last) ∧
      let visitor := countingVisitor tags (stampOf captures.epoch)
      let closed := (heap tagged).stamped captures.epoch
      (host.followReferences tagged).visits visitor .empty = (heap state).visitsOf closed ∧
      (∀ count search, Explores visitor count (.start (heap tagged) .empty) search →
        count ≤ (heap state).visitsOf closed ∧
          (search.pending = 0 → count = (heap state).visitsOf closed)) ∧
      ∀ signature,
        histogram.Tells signature ((heap state).census ((heap state).live closed) signature) := by
  obtain ⟨tags, tagged, histogram, last, htagged, hended, hcapture⟩ :=
    exists_capture_ok reliable captures.epoch hsteady hclasses
  obtain ⟨_, alike⟩ := tagLoadedClasses_shape shows has htagged
  obtain ⟨_, _, hsame, hcensus⟩ := census_of_capture_ok shows has hcapture
  obtain ⟨htags, rfl⟩ := Prod.mk.inj (hsame.symm.trans htagged)
  obtain rfl := Except.ok.inj htags
  refine ⟨_, _, histogram, last, htagged, hcapture, ?_, ?_, hcensus⟩
  · obtain ⟨seen, search, hcounted, _, _, hend⟩ := exists_counted shows has htagged captures.epoch
    rw [← alike.visitsOf_eq]
    exact hcounted.visits_eq_of_end (hend hended)
  · intro count search hexplores
    rw [← alike.visitsOf_eq]
    exact visits_of_explores shows has htagged hexplores

/-- A heap with a cycle, an object that refers to itself, a root named twice, the class object of
a class, an object whose class is not loaded, and an object stamped before the first capture. -/
def heapWithCycle : InMemory :=
  { InMemory.empty with
    graph := {
      signatures := #["LNode;".toUTF8.toList, "Ljava/lang/Class;".toUTF8.toList]
      objects := #[
        ⟨0, 16, [1, 2], none, false⟩,
        ⟨0, 24, [0, 1, 3], none, false⟩,
        ⟨1, 64, [4], some 0, false⟩,
        ⟨99, 8, [0], none, false⟩,
        ⟨0, 32, [5], none, false⟩,
        ⟨0, 40, [], none, false⟩]
      roots := [0, 0, 4]
      slots := #[7, -1, 0, 3, stampOf 1, 0]
      classSlots := #[0, 5] } }

theorem capture_exact_with_cycle :
    heapWithCycle.plan = [] ∧ heapWithCycle.graph.HasSlots ∧
      ∃ tags tagged histogram last,
        (tagLoadedClasses InMemory.heap).finish heapWithCycle = (.ok tags, tagged) ∧
        (capture InMemory.heap 1).finish heapWithCycle = (.ok histogram, last) ∧
        (InMemory.followReferences tagged).visits (countingVisitor tags (stampOf 1)) .empty =
          heapWithCycle.graph.visitsOf (tagged.graph.stamped 1) ∧
        ∀ signature, histogram.Tells signature
          (heapWithCycle.graph.census (heapWithCycle.graph.live (tagged.graph.stamped 1))
            signature) := by
  have hslots : heapWithCycle.graph.HasSlots := ⟨rfl, rfl⟩
  refine ⟨rfl, hslots, ?_⟩
  obtain ⟨tags, tagged, histogram, last, htagged, hcapture, hvisits, _, hcensus⟩ :=
    capture_exact InMemory.shows InMemory.reliable Captures.none rfl hslots <| by
      intro classes after hclasses
      rw [InMemory.length_loadedClasses hclasses]
      decide
  exact ⟨tags, tagged, histogram, last, htagged, hcapture, hvisits, hcensus⟩

end ExhaustionGuard.Heap
