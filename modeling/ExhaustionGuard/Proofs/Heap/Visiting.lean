import ExhaustionGuard.Proofs.Heap.Census
import ExhaustionGuard.Proofs.Heap.Tagging

/-! # The walk of a capture

While the counting visitor goes through a graph, the objects that it has seen
are exactly those whose slot it stamped; whatever may still be reached lies
behind a pending reference. Each object is entered once, so the visits are
counted by the references of the objects seen.
-/

namespace ExhaustionGuard.Heap

namespace Graph

variable {graph : Graph}

/-- The objects that carry the stamp of an epoch. -/
def stamped (graph : Graph) (epoch : Nat) : Set Nat :=
  { object | isStamped (stampOf epoch) (graph.slot object) = true }

theorem slot_reached (has : graph.HasSlots) (object : Nat) :
    (graph.reached object).slot = graph.slot object := by
  unfold reached
  split
  next => rfl
  next hnone => rw [slot_of_not_object has (Array.getElem?_eq_none_iff.mp hnone)]

/-- Stamping an object keeps the class tag in its slot, so classes keep their tags. -/
theorem Alike.classBits_classTag {left right : Graph} (alike : left.Alike right)
    (hslot : ∀ object, classBits (left.slot object) = classBits (right.slot object))
    (hown : ∀ cls, left.ownSlot cls = right.ownSlot cls) (cls : Nat) :
    classBits (left.classTag cls) = classBits (right.classTag cls) := by
  rcases Nat.lt_or_ge cls right.signatures.size with hcls | hcls
  · rw [classTag_of_loaded (by rwa [alike.signatures]), classTag_of_loaded hcls,
      alike.classObject?_eq]
    cases right.classObject? cls with
    | none => exact congrArg classBits (hown cls)
    | some object => exact hslot object
  · rw [classTag_of_unloaded (by rwa [alike.signatures]), classTag_of_unloaded hcls]

/-- Only objects of the heap have stamps. -/
theorem stamped_eq_empty (has : graph.HasSlots) {epoch : Nat} (hepoch : IsEpoch epoch)
    (hslots : ∀ object < graph.objects.size,
      isStamped (stampOf epoch) (graph.slot object) = false) : graph.stamped epoch = ∅ := by
  refine Set.eq_empty_iff_forall_notMem.mpr fun object hstamped => ?_
  change isStamped (stampOf epoch) (graph.slot object) = true at hstamped
  rcases Nat.lt_or_ge object graph.objects.size with hinside | houtside
  · simp [hslots object hinside] at hstamped
  · rw [slot_of_not_object has houtside, isStamped_iff] at hstamped
    exact stampOf_ne_zero hepoch hstamped.symm

end Graph

variable {tags : ClassTags} {epoch : Nat}

@[simp]
theorem countingVisitor_of_stamped {stamp : Int} {object : Reached}
    (hstamped : isStamped stamp object.slot = true) (histogram : Histogram) :
    countingVisitor tags stamp object histogram = (⟨.prune, object.slot⟩, histogram) :=
  if_pos hstamped

@[simp]
theorem countingVisitor_of_unstamped {stamp : Int} {object : Reached}
    (hstamped : ¬ isStamped stamp object.slot = true) (histogram : Histogram) :
    countingVisitor tags stamp object histogram =
      (⟨.descend, restamp stamp object.slot⟩, countObject tags object histogram) :=
  if_neg hstamped

theorem neverPanics_countingVisitor (tags : ClassTags) (stamp : Int) :
    NeverPanics (countingVisitor tags stamp) := by
  intro object memory payload
  by_cases hstamped : isStamped stamp object.slot = true
  · simp [hstamped]
  · simp [hstamped]

theorem get?_countObject (tags : ClassTags) (object : Reached) (histogram : Histogram)
    (signature : String) :
    (countObject tags object histogram).get? signature =
      if tags.signature? (classBits object.classTag) = some signature then
        some (ClassStats.add object.size (histogram.get? signature))
      else histogram.get? signature := by
  unfold countObject
  cases hname : tags.signature? (classBits object.classTag) with
  | none => simp
  | some name =>
      simp only [Histogram.get?_record, Option.some.injEq]
      by_cases heq : name = signature <;> simp [heq]

theorem countObject_of_unnamed {object : Reached}
    (hunnamed : tags.signature? (classBits object.classTag) = none) (histogram : Histogram) :
    countObject tags object histogram = histogram := by
  rw [countObject, hunnamed]

/-- An object that carries the stamp is passed over. -/
theorem visited_of_stamped {search : Search Histogram} (has : search.graph.HasSlots) {object : Nat}
    (hstamped : isStamped (stampOf epoch) (search.graph.slot object) = true)
    (rest : Multiset Nat) :
    search.visited (countingVisitor tags (stampOf epoch)) object rest =
      { search with pending := rest } := by
  simp [Search.visited, Graph.slot_reached has, hstamped]

/-- Any other object is stamped, counted and entered. -/
theorem visited_of_unstamped {search : Search Histogram} (has : search.graph.HasSlots)
    {object : Nat} (hstamped : ¬ isStamped (stampOf epoch) (search.graph.slot object) = true)
    (rest : Multiset Nat) :
    search.visited (countingVisitor tags (stampOf epoch)) object rest =
      ⟨search.graph.setSlot object (restamp (stampOf epoch) (search.graph.slot object)),
        search.graph.references object + rest,
        countObject tags (search.graph.reached object) search.memory⟩ := by
  simp [Search.visited, Graph.slot_reached has, hstamped]

/-- What a walk has to know about an object on which a reference leads: that it was seen, that it
need not be, or that it still will be. -/
def Covered (start : Graph) (epoch : Nat) (seen : Finset Nat) (pending : Multiset Nat)
    (object : Nat) : Prop :=
  object ∈ seen ∨ object ∈ start.stamped epoch ∨ start.objects.size ≤ object ∨ object ∈ pending

/-- What was covered before the visit of an object is covered behind it too, if the object is and
nothing else was taken off. -/
theorem Covered.behind {start : Graph} {before after : Finset Nat} {rest pending : Multiset Nat}
    {object next : Nat} (hnext : Covered start epoch before (object ::ₘ rest) next)
    (hobject : Covered start epoch after pending object) (hseen : before ⊆ after)
    (hrest : rest ⊆ pending) : Covered start epoch after pending next := by
  rcases hnext with hmem | hstamped | houtside | hmem
  · exact .inl (hseen hmem)
  · exact .inr (.inl hstamped)
  · exact .inr (.inr (.inl houtside))
  · rcases Multiset.mem_cons.mp hmem with rfl | hmem
    · exact hobject
    · exact .inr (.inr (.inr (hrest hmem)))

/-- The state of a walk that has made so many visits and has seen some objects. -/
structure Counted (start : Graph) (epoch visits : Nat) (seen : Finset Nat)
    (search : Search Histogram) : Prop where
  alike : search.graph.Alike start
  hasSlots : search.graph.HasSlots
  slot : ∀ object, search.graph.slot object =
    if object ∈ seen then restamp (stampOf epoch) (start.slot object) else start.slot object
  ownSlot : ∀ cls, search.graph.ownSlot cls = start.ownSlot cls
  seen_live : seen ⊆ start.live (start.stamped epoch)
  pending_live : ∀ object ∈ search.pending, object ∉ start.stamped epoch →
    start.Reaches (start.stamped epoch) object
  roots_covered : ∀ object ∈ start.roots, Covered start epoch seen search.pending object
  references_covered : ∀ object ∈ seen, ∀ next ∈ start.references object,
    Covered start epoch seen search.pending next
  visits_eq : visits + search.pending.card =
    start.roots.length + ∑ object ∈ seen, (start.references object).length
  census_eq : ∀ signature,
    search.memory.get? signature = (start.census seen signature).map Tally.words

namespace Counted

variable {start : Graph} {visits : Nat} {seen : Finset Nat} {search : Search Histogram}

theorem initial (has : start.HasSlots) : Counted start epoch 0 ∅ (.start start .empty) where
  alike := .refl start
  hasSlots := has
  slot := by simp [Search.start]
  ownSlot := fun _ => rfl
  seen_live := Finset.empty_subset _
  pending_live := fun object hobject hopen => .root (by simpa [Search.start] using hobject) hopen
  roots_covered := fun object hobject => .inr (.inr (.inr (by simpa [Search.start] using hobject)))
  references_covered := by simp
  visits_eq := by simp [Search.start]
  census_eq := by simp [Search.start]

theorem isStamped_slot (counted : Counted start epoch visits seen search) (object : Nat) :
    isStamped (stampOf epoch) (search.graph.slot object) = true ↔
      object ∈ seen ∨ object ∈ start.stamped epoch := by
  rw [counted.slot]
  by_cases hseen : object ∈ seen
  · simp [hseen]
  · simp [hseen, Graph.stamped]

theorem classBits_classTag (counted : Counted start epoch visits seen search) (cls : Nat) :
    classBits (search.graph.classTag cls) = classBits (start.classTag cls) := by
  refine counted.alike.classBits_classTag (fun object => ?_) counted.ownSlot cls
  rw [counted.slot]
  split
  · exact classBits_restamp epoch _
  · rfl

/-- An object is counted for the signature of its class, if that is loaded. -/
theorem signature?_reached (counted : Counted start epoch visits seen search)
    (hnames : ∀ cls < start.signatures.size, Names tags start cls) (object : Nat) :
    tags.signature? (classBits (search.graph.reached object).classTag) =
      start.signatureOf? object := by
  simp only [Graph.reached, Graph.signatureOf?, counted.alike.objects]
  cases start.objects[object]? with
  | none => rfl
  | some o =>
      simp only [counted.classBits_classTag]
      split
      next hcls => exact hnames o.cls hcls
      next hcls =>
        rw [Graph.classTag_of_unloaded (Nat.le_of_not_lt hcls)]
        rfl

/-- Passing over an object that need not be counted. -/
theorem pass (counted : Counted start epoch visits seen search) {object : Nat}
    {rest : Multiset Nat} (hpending : search.pending = object ::ₘ rest)
    (hcovered : object ∈ seen ∨ object ∈ start.stamped epoch ∨ start.objects.size ≤ object) :
    Counted start epoch (visits + 1) seen { search with pending := rest } := by
  have hobject : Covered start epoch seen rest object :=
    hcovered.imp_right (Or.imp_right .inl)
  have hrest : ∀ next, Covered start epoch seen search.pending next →
      Covered start epoch seen rest next := by
    intro next hnext
    rw [hpending] at hnext
    exact hnext.behind hobject subset_rfl (Multiset.Subset.refl rest)
  have hvisits := counted.visits_eq
  rw [hpending, Multiset.card_cons] at hvisits
  exact {
    alike := counted.alike
    hasSlots := counted.hasSlots
    slot := counted.slot
    ownSlot := counted.ownSlot
    seen_live := counted.seen_live
    pending_live := fun next hnext => counted.pending_live next
      (hpending ▸ Multiset.mem_cons_of_mem hnext)
    roots_covered := fun root hroot => hrest root (counted.roots_covered root hroot)
    references_covered := fun seen hseen next hnext =>
      hrest next (counted.references_covered seen hseen next hnext)
    visits_eq := by
      change visits + 1 + rest.card = _
      omega
    census_eq := counted.census_eq }

/-- Entering an object that is seen for the first time. -/
theorem enter (counted : Counted start epoch visits seen search)
    (hnames : ∀ cls < start.signatures.size, Names tags start cls) {object : Nat}
    {rest : Multiset Nat} (hpending : search.pending = object ::ₘ rest)
    (hobject : object < start.objects.size) (hnew : object ∉ seen)
    (hopen : object ∉ start.stamped epoch) :
    Counted start epoch (visits + 1) (insert object seen)
      ⟨search.graph.setSlot object (restamp (stampOf epoch) (search.graph.slot object)),
        search.graph.references object + rest,
        countObject tags (search.graph.reached object) search.memory⟩ := by
  have hreferences := counted.alike.references_eq object
  have hreaches : start.Reaches (start.stamped epoch) object :=
    counted.pending_live object (hpending ▸ Multiset.mem_cons_self _ _) hopen
  have hcovers : ∀ next, Covered start epoch seen search.pending next →
      Covered start epoch (insert object seen) (search.graph.references object + rest) next := by
    intro next hnext
    rw [hpending] at hnext
    exact hnext.behind (.inl (Finset.mem_insert_self object seen)) (Finset.subset_insert _ _)
      (Multiset.subset_of_le (Multiset.le_add_left rest _))
  have hvisits := counted.visits_eq
  rw [hpending, Multiset.card_cons] at hvisits
  exact {
    alike := (Graph.alike_setSlot _ _ _).trans counted.alike
    hasSlots := counted.hasSlots.setSlot _ _
    slot := by
      intro other
      rw [Graph.slot_setSlot counted.hasSlots, counted.alike.objects, counted.slot, counted.slot]
      by_cases heq : other = object
      · subst heq
        simp [hobject, hnew]
      · simp [heq]
    ownSlot := counted.ownSlot
    seen_live := Finset.insert_subset (Graph.mem_live.mpr ⟨hobject, hreaches⟩) counted.seen_live
    pending_live := by
      intro next hnext hclear
      rcases Multiset.mem_add.mp hnext with hmem | hmem
      · exact .step hreaches (hreferences ▸ Multiset.mem_coe.mp hmem) hclear
      · exact counted.pending_live next (hpending ▸ Multiset.mem_cons_of_mem hmem) hclear
    roots_covered := fun root hroot => hcovers root (counted.roots_covered root hroot)
    references_covered := by
      intro other hother next hnext
      rcases Finset.mem_insert.mp hother with rfl | hseen
      · exact .inr (.inr (.inr (Multiset.mem_add.mpr (.inl (hreferences ▸ hnext)))))
      · exact hcovers next (counted.references_covered other hseen next hnext)
    visits_eq := by
      rw [Finset.sum_insert hnew, Multiset.card_add, Multiset.coe_card, hreferences]
      omega
    census_eq := by
      intro signature
      rw [get?_countObject, counted.signature?_reached hnames, Graph.census_insert hnew,
        counted.census_eq, ← counted.alike.bytesOf_eq]
      split
      next => rw [Option.map_some, Tally.words_add, Graph.bytesOf]
      next => rfl }

/-- One visit. -/
theorem visit (counted : Counted start epoch visits seen search)
    (hnames : ∀ cls < start.signatures.size, Names tags start cls) {object : Nat}
    {rest : Multiset Nat} (hpending : search.pending = object ::ₘ rest) :
    ∃ seen, Counted start epoch (visits + 1) seen
      (search.visited (countingVisitor tags (stampOf epoch)) object rest) := by
  by_cases hstamped : isStamped (stampOf epoch) (search.graph.slot object) = true
  · rw [visited_of_stamped counted.hasSlots hstamped]
    have hcovered := (counted.isStamped_slot object).mp hstamped
    exact ⟨seen, counted.pass hpending (hcovered.imp_right .inl)⟩
  · rw [visited_of_unstamped counted.hasSlots hstamped]
    have hclear := (counted.isStamped_slot object).not.mp hstamped
    rw [not_or] at hclear
    -- a reference may lead nowhere; following it changes nothing
    rcases Nat.lt_or_ge object start.objects.size with hobject | houtside
    · exact ⟨_, counted.enter hnames hpending hobject hclear.1 hclear.2⟩
    · have hobject : search.graph.objects.size ≤ object := counted.alike.objects ▸ houtside
      have hunnamed := counted.signature?_reached hnames object
      rw [Graph.signatureOf?, Array.getElem?_eq_none houtside] at hunnamed
      rw [Graph.setSlot_of_not_object counted.hasSlots hobject,
        Graph.references_of_not_object hobject, countObject_of_unnamed hunnamed]
      exact ⟨seen, by simpa using counted.pass hpending (.inr (.inr houtside))⟩

theorem explores (counted : Counted start epoch visits seen search)
    (hnames : ∀ cls < start.signatures.size, Names tags start cls) {count : Nat}
    {last : Search Histogram}
    (hexplores : Explores (countingVisitor tags (stampOf epoch)) count search last) :
    ∃ seen, Counted start epoch (visits + count) seen last := by
  induction hexplores generalizing visits seen with
  | stay search => exact ⟨seen, counted⟩
  | visit object rest hpending _ ih =>
      obtain ⟨seen, hnext⟩ := counted.visit hnames hpending
      obtain ⟨seen, hlast⟩ := ih hnext
      exact ⟨seen, by rwa [Nat.add_assoc, Nat.add_comm 1] at hlast⟩

/-- What was to be seen has been seen once nothing is pending. -/
theorem seen_eq_live (counted : Counted start epoch visits seen search)
    (hend : search.pending = 0) : seen = start.live (start.stamped epoch) := by
  have hcovered : ∀ object, Covered start epoch seen search.pending object →
      object ∉ start.stamped epoch → object < start.objects.size → object ∈ seen := by
    intro object hobject hopen hlt
    rcases hobject with hseen | hstamped | houtside | hmem
    · exact hseen
    · exact absurd hstamped hopen
    · exact absurd hlt (Nat.not_lt.mpr houtside)
    · simp [hend] at hmem
  have hreaches : ∀ object, start.Reaches (start.stamped epoch) object →
      object < start.objects.size → object ∈ seen := by
    intro object hreaches hlt
    -- along a path that avoids the stamped objects, each one seen covers the next
    induction hreaches with
    | root hroot hopen => exact hcovered _ (counted.roots_covered _ hroot) hopen hlt
    | @step object next _ hnext hopen ih =>
        rcases Nat.lt_or_ge object start.objects.size with hobject | houtside
        · exact hcovered _ (counted.references_covered _ (ih hobject) _ hnext) hopen hlt
        · simp [Graph.references_of_not_object houtside] at hnext
  apply Finset.Subset.antisymm counted.seen_live
  intro object hobject
  obtain ⟨hlt, hlive⟩ := Graph.mem_live.mp hobject
  exact hreaches object hlive hlt

theorem visits_eq_of_end (counted : Counted start epoch visits seen search)
    (hend : search.pending = 0) : visits = start.visitsOf (start.stamped epoch) := by
  have hvisits := counted.visits_eq
  rw [hend, Multiset.card_zero, Nat.add_zero, counted.seen_eq_live hend] at hvisits
  exact hvisits

/-- No object is entered twice, so every walk is short. -/
theorem visits_add_pending_le (counted : Counted start epoch visits seen search) :
    visits + search.pending.card ≤ start.visitsOf (start.stamped epoch) := by
  rw [counted.visits_eq, Graph.visitsOf]
  exact Nat.add_le_add_left (Finset.sum_le_sum_of_subset counted.seen_live) _

end Counted

end ExhaustionGuard.Heap
