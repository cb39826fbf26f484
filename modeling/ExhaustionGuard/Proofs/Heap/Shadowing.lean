import ExhaustionGuard.Proofs.Heap.Veil
import ExhaustionGuard.Proofs.Heap.Visiting

/-! # Walks past hidden slots

A machine enters an object that hides its slot each time a reference leads
there. Beside its walk goes a search of the veiled heap that enters each object
once: it has seen the same objects and counted the same ones, and whatever more
is pending for the machine has been seen or is pending there, too.
-/

namespace ExhaustionGuard.Heap

namespace Graph

/-- Every reference leads to an object that shows its slot. -/
def AllShown (graph : Graph) : Prop :=
  (∀ object ∈ graph.roots, graph.hidesSlot object = false) ∧
    ∀ object, ∀ next ∈ graph.references object, graph.hidesSlot next = false

theorem AllShown.of_lt {graph : Graph}
    (hroots : ∀ object ∈ graph.roots, graph.hidesSlot object = false)
    (hreferences : ∀ object < graph.objects.size, ∀ next ∈ graph.references object,
      graph.hidesSlot next = false) : graph.AllShown := by
  refine ⟨hroots, fun object next hnext => ?_⟩
  rcases Nat.lt_or_ge object graph.objects.size with hinside | houtside
  · exact hreferences object hinside next hnext
  · simp [references_of_not_object houtside] at hnext

theorem AllShown.of_reaches {graph : Graph} (hshown : graph.AllShown) {closed : Set Nat}
    {object : Nat} (hreaches : graph.veil.Reaches closed object) :
    graph.hidesSlot object = false := by
  cases hreaches with
  | root hroot => exact hshown.1 object hroot
  | step _ hnext => exact hshown.2 _ object (by simpa using hnext)

theorem lt_of_shown {graph : Graph} {object : Nat} (hshown : graph.hidesSlot object = false) :
    object < graph.objects.size := by
  by_contra houtside
  rw [hidesSlot, Array.getElem?_eq_none (Nat.le_of_not_lt houtside)] at hshown
  cases hshown

end Graph

/-- A heap at the start of a walk: no object is stamped, the tags lead to the signatures of their
classes, and the walk cannot go round in circles. -/
structure Prepared (start : Graph) (tags : ClassTags) (epoch : Nat) : Prop where
  hasSlots : start.HasSlots
  fresh : start.stamped epoch = ∅
  names : ∀ cls < start.signatures.size, Names tags start cls
  noHiddenCycle : start.NoHiddenCycle

theorem Prepared.notMem_stamped {start : Graph} {tags : ClassTags} {epoch : Nat}
    (prepared : Prepared start tags epoch) (object : Nat) : object ∉ start.veil.stamped epoch :=
  Set.eq_empty_iff_forall_notMem.mp prepared.fresh object

theorem Prepared.names_veil {start : Graph} {tags : ClassTags} {epoch : Nat}
    (prepared : Prepared start tags epoch) :
    ∀ cls < start.veil.signatures.size, Names tags start.veil cls := by
  intro cls hcls
  rw [Names, Graph.classTag_veil]
  exact prepared.names cls hcls

/-- A search once it has stamped and entered an object that was pending. -/
def Search.entering (search : Search Histogram) (epoch object : Nat) (memory : Histogram) :
    Search Histogram :=
  ⟨search.graph.setSlot object (restamp (stampOf epoch) (search.graph.slot object)),
    search.graph.references object + search.pending.erase object, memory⟩

/-- How a walk past hidden slots stands, with the search of the veiled heap that goes beside it:
the callbacks made so far, how many of them reached the visitor, the graph as it is by now, and
what is pending for the machine. -/
structure Shadowed (start : Graph) (epoch callbacks calls : Nat) (graph : Graph)
    (pending : Multiset Nat) (visits : Nat) (seen : Finset Nat) (search : Search Histogram) :
    Prop where
  counted : Counted start.veil epoch visits seen search
  alike : graph.Alike start
  hasSlots : graph.HasSlots
  slot : ∀ object, graph.slot object =
    if start.hidesSlot object = true then start.slot object else search.graph.slot object
  ownSlot : ∀ cls, graph.ownSlot cls = start.ownSlot cls
  pending_le : search.pending ≤ pending
  pending_known : ∀ object ∈ pending,
    object ∈ seen ∨ start.objects.size ≤ object ∨ object ∈ search.pending
  callbacks_le : callbacks + (pending.map start.weight).sum ≤ (start.roots.map start.weight).sum +
    ∑ object ∈ seen with start.hidesSlot object = false,
      ((start.references object).map start.weight).sum
  shown : start.AllShown → search.pending = pending ∧ calls = visits

namespace Shadowed

variable {start graph : Graph} {tags : ClassTags} {epoch callbacks calls visits object : Nat}
  {pending rest : Multiset Nat} {seen : Finset Nat} {search : Search Histogram}

theorem initial (prepared : Prepared start tags epoch) :
    Shadowed start epoch 0 0 start start.roots 0 ∅ (.start start.veil .empty) where
  counted := .initial prepared.hasSlots.veil
  alike := .refl start
  hasSlots := prepared.hasSlots
  slot := by simp [Search.start]
  ownSlot := fun _ => rfl
  pending_le := le_rfl
  pending_known := fun object hobject => .inr (.inr hobject)
  callbacks_le := by simp
  shown := fun _ => ⟨rfl, rfl⟩

theorem callbacks_le_totalWeight
    (shadowed : Shadowed start epoch callbacks calls graph pending visits seen search) :
    callbacks ≤ start.totalWeight := by
  have hseen : (seen.filter fun object => start.hidesSlot object = false) ⊆
      Finset.range start.objects.size := fun _ hobject =>
    Finset.mem_range.mpr (Graph.lt_of_shown (Finset.mem_filter.mp hobject).2)
  have hle := shadowed.callbacks_le
  have hsum := Finset.sum_le_sum_of_subset
    (f := fun object => ((start.references object).map start.weight).sum) hseen
  rw [Graph.totalWeight]
  omega

/-- Stamps do not change what a class tag stands for, seen from either side. -/
theorem classBits_classTag
    (shadowed : Shadowed start epoch callbacks calls graph pending visits seen search)
    (cls : Nat) : classBits (graph.classTag cls) = classBits (search.graph.classTag cls) := by
  rw [shadowed.counted.classBits_classTag, Graph.classTag_veil]
  refine shadowed.alike.classBits_classTag (fun object => ?_) shadowed.ownSlot cls
  rw [shadowed.slot, shadowed.counted.slot, Graph.slot_veil]
  split
  · rfl
  · split
    · exact classBits_restamp epoch _
    · rfl

/-- An object that shows its slot is counted alike on both sides. -/
theorem countObject_eq
    (shadowed : Shadowed start epoch callbacks calls graph pending visits seen search)
    (hshown : start.hidesSlot object = false) (histogram : Histogram) :
    countObject tags (graph.reached object) histogram =
      countObject tags (search.graph.reached object) histogram := by
  have hlt := Graph.lt_of_shown hshown
  have hobject := Array.getElem?_eq_getElem hlt
  have hleft : graph.objects[object]? = some start.objects[object] := by
    rw [shadowed.alike.objects, hobject]
  have hright : search.graph.objects[object]? = some start.objects[object] := by
    rw [Graph.hidesSlot, hobject] at hshown
    rw [shadowed.counted.alike.objects, Graph.getElem?_objects_veil, hobject, Option.map_some,
      if_neg (by simp [hshown])]
  simp only [countObject, Graph.reached, hleft, hright, shadowed.classBits_classTag]

/-- An object that hides its slot is not counted on the veiled side either. -/
theorem countObject_of_hidden
    (shadowed : Shadowed start epoch callbacks calls graph pending visits seen search)
    (prepared : Prepared start tags epoch) (hhidden : start.hidesSlot object = true)
    (histogram : Histogram) :
    countObject tags (search.graph.reached object) histogram = histogram := by
  refine countObject_of_unnamed ?_ histogram
  rw [shadowed.counted.signature?_reached prepared.names_veil, Graph.signatureOf?_veil hhidden]

theorem isStamped_slot
    (shadowed : Shadowed start epoch callbacks calls graph pending visits seen search)
    (prepared : Prepared start tags epoch) (hshown : start.hidesSlot object = false) :
    isStamped (stampOf epoch) (graph.slot object) = true ↔ object ∈ seen := by
  rw [shadowed.slot, if_neg (by simp [hshown]), shadowed.counted.isStamped_slot,
    or_iff_left (prepared.notMem_stamped object)]

/-! ## One callback -/

section Step

variable
  (shadowed : Shadowed start epoch callbacks calls graph (object ::ₘ rest) visits seen search)
include shadowed

theorem erase_le : search.pending.erase object ≤ rest :=
  Multiset.erase_le_iff_le_cons.mpr shadowed.pending_le

theorem known_of_mem {next : Nat} (hnext : next ∈ rest) : next = object ∨
    next ∈ seen ∨ start.objects.size ≤ next ∨ next ∈ search.pending.erase object := by
  rcases eq_or_ne next object with heq | hne
  · exact .inl heq
  · exact .inr ((shadowed.pending_known next (Multiset.mem_cons_of_mem hnext)).imp_right
      (Or.imp_right (Multiset.mem_erase_of_ne hne).mpr))

/-- An object that hides its slot is not reached if all objects show theirs. -/
theorem not_allShown (prepared : Prepared start tags epoch)
    (hhidden : start.hidesSlot object = true) : ¬ start.AllShown := by
  intro hshown
  have hpending : object ∈ search.pending := by
    rw [(shadowed.shown hshown).1]
    exact Multiset.mem_cons_self object rest
  have hvisible := hshown.of_reaches
    (shadowed.counted.pending_live object hpending (prepared.notMem_stamped object))
  rw [hhidden] at hvisible
  cases hvisible

theorem callbacks_le_cons :
    callbacks + start.weight object + (rest.map start.weight).sum ≤
      (start.roots.map start.weight).sum +
        ∑ object ∈ seen with start.hidesSlot object = false,
          ((start.references object).map start.weight).sum := by
  have hle := shadowed.callbacks_le
  rwa [Multiset.map_cons, Multiset.sum_cons, ← Nat.add_assoc] at hle

theorem sum_weight_enter :
    ((graph.references object + rest : Multiset Nat).map start.weight).sum =
      ((start.references object).map start.weight).sum + (rest.map start.weight).sum := by
  rw [shadowed.alike.references_eq, Multiset.map_add, Multiset.sum_add, Multiset.map_coe,
    Multiset.sum_coe]

/-- What is known need not be entered again on the veiled side. -/
theorem exists_pass (hknown : object ∈ seen ∨ start.objects.size ≤ object) :
    ∃ visits', Counted start.veil epoch visits' seen
        { search with pending := search.pending.erase object } ∧
      (object ∈ search.pending → visits' = visits + 1) := by
  by_cases hpending : object ∈ search.pending
  · refine ⟨visits + 1, shadowed.counted.pass (Multiset.cons_erase hpending).symm ?_,
      fun _ => rfl⟩
    exact hknown.imp_right fun houtside => .inr (by simpa using houtside)
  · rw [Multiset.erase_of_notMem hpending]
    exact ⟨visits, shadowed.counted, fun hmem => absurd hmem hpending⟩

theorem mem_pending_of_new (hobject : object < start.objects.size) (hnew : object ∉ seen) :
    object ∈ search.pending :=
  ((shadowed.pending_known object (Multiset.mem_cons_self _ _)).resolve_left hnew).resolve_left
    (Nat.not_le_of_lt hobject)

/-- The visitor passes over an object that was seen. -/
theorem pass (hseen : object ∈ seen) : ∃ visits search',
    Shadowed start epoch (callbacks + 1) (calls + 1) graph rest visits seen search' ∧
      search'.memory = search.memory := by
  obtain ⟨visits', hcounted, hvisits⟩ := shadowed.exists_pass (.inl hseen)
  refine ⟨visits', { search with pending := search.pending.erase object }, ?_, rfl⟩
  have hweight := start.one_le_weight object
  have hle := shadowed.callbacks_le_cons
  exact {
    counted := hcounted
    alike := shadowed.alike
    hasSlots := shadowed.hasSlots
    slot := shadowed.slot
    ownSlot := shadowed.ownSlot
    pending_le := shadowed.erase_le
    pending_known := by
      intro next hnext
      rcases shadowed.known_of_mem hnext with rfl | hknown
      · exact .inl hseen
      · exact hknown
    callbacks_le := by omega
    shown := by
      intro hshown
      obtain ⟨hpending, hcalls⟩ := shadowed.shown hshown
      refine ⟨by simp [hpending], ?_⟩
      rw [hvisits (hpending ▸ Multiset.mem_cons_self object rest), hcalls] }

/-- The machine enters an object again that hides its slot. -/
theorem reenter (prepared : Prepared start tags epoch) (hhidden : start.hidesSlot object = true)
    (hknown : object ∈ seen ∨ start.objects.size ≤ object) : ∃ visits search',
    Shadowed start epoch (callbacks + 1) calls graph (graph.references object + rest) visits seen
      search' ∧ search'.memory = search.memory := by
  obtain ⟨visits', hcounted, -⟩ := shadowed.exists_pass hknown
  refine ⟨visits', { search with pending := search.pending.erase object }, ?_, rfl⟩
  have hweight := Graph.sum_weight_references_lt prepared.noHiddenCycle hhidden
  have hle := shadowed.callbacks_le_cons
  exact {
    counted := hcounted
    alike := shadowed.alike
    hasSlots := shadowed.hasSlots
    slot := shadowed.slot
    ownSlot := shadowed.ownSlot
    pending_le := shadowed.erase_le.trans (Multiset.le_add_left _ _)
    pending_known := by
      intro next hnext
      rcases Multiset.mem_add.mp hnext with hmem | hmem
      · -- what a seen object refers to is known, since the object itself was entered
        rw [Multiset.mem_coe, shadowed.alike.references_eq] at hmem
        rcases hknown with hseen | houtside
        · have hcovered := hcounted.references_covered object hseen next (by simpa using hmem)
          rcases hcovered with hnextSeen | hstamped | hnextOutside | hpending
          · exact .inl hnextSeen
          · exact absurd hstamped (prepared.notMem_stamped next)
          · exact .inr (.inl (by simpa using hnextOutside))
          · exact .inr (.inr hpending)
        · simp [Graph.references_of_not_object houtside] at hmem
      · rcases shadowed.known_of_mem hmem with rfl | hnextKnown
        · exact hknown.imp_right .inl
        · exact hnextKnown
    callbacks_le := by
      rw [shadowed.sum_weight_enter]
      omega
    shown := fun hshown => absurd hshown (shadowed.not_allShown prepared hhidden) }

theorem references_eq :
    search.graph.references object = graph.references object := by
  rw [shadowed.counted.alike.references_eq, Graph.references_veil, shadowed.alike.references_eq]

/-- What is pending for the machine once it entered an object is known or pending beside it. -/
theorem pending_known_enter :
    ∀ next ∈ (graph.references object + rest : Multiset Nat),
      next ∈ insert object seen ∨ start.objects.size ≤ next ∨
        next ∈ (search.graph.references object + search.pending.erase object : Multiset Nat) := by
  intro next hnext
  rw [shadowed.references_eq]
  rcases Multiset.mem_add.mp hnext with hmem | hmem
  · exact .inr (.inr (Multiset.mem_add.mpr (.inl hmem)))
  · rcases shadowed.known_of_mem hmem with rfl | hseen | houtside | hpending
    · exact .inl (Finset.mem_insert_self _ _)
    · exact .inl (Finset.mem_insert_of_mem hseen)
    · exact .inr (.inl houtside)
    · exact .inr (.inr (Multiset.mem_add.mpr (.inr hpending)))

theorem pending_le_enter :
    (search.graph.references object + search.pending.erase object : Multiset Nat) ≤
      graph.references object + rest := by
  rw [shadowed.references_eq]
  exact add_le_add_right shadowed.erase_le _

/-- The search of the veiled heap enters an object that is new. -/
theorem counted_enter (prepared : Prepared start tags epoch)
    (hobject : object < start.objects.size) (hnew : object ∉ seen) :
    Counted start.veil epoch (visits + 1) (insert object seen)
      (search.entering epoch object
        (countObject tags (search.graph.reached object) search.memory)) := by
  have hpending := shadowed.mem_pending_of_new hobject hnew
  exact shadowed.counted.enter prepared.names_veil (Multiset.cons_erase hpending).symm
    (by simpa using hobject) hnew (prepared.notMem_stamped object)

/-- An object that shows its slot is counted and stamped when it is new. -/
theorem enter (prepared : Prepared start tags epoch) (hshown : start.hidesSlot object = false)
    (hnew : object ∉ seen) : ∃ search',
    Shadowed start epoch (callbacks + 1) (calls + 1)
        (graph.setSlot object (restamp (stampOf epoch) (graph.slot object)))
        (graph.references object + rest) (visits + 1) (insert object seen) search' ∧
      search'.memory = countObject tags (graph.reached object) search.memory := by
  have hobject := Graph.lt_of_shown hshown
  have hcounted := shadowed.counted_enter prepared hobject hnew
  rw [← shadowed.countObject_eq hshown] at hcounted
  refine ⟨search.entering epoch object _, ?_, rfl⟩
  have hweight := start.one_le_weight object
  have hle := shadowed.callbacks_le_cons
  exact {
    counted := hcounted
    alike := (Graph.alike_setSlot _ _ _).trans shadowed.alike
    hasSlots := shadowed.hasSlots.setSlot _ _
    slot := by
      intro other
      rw [Search.entering, Graph.slot_setSlot shadowed.hasSlots,
        Graph.slot_setSlot shadowed.counted.hasSlots,
        shadowed.alike.objects, shadowed.counted.alike.objects, Graph.size_objects_veil,
        shadowed.slot other, shadowed.slot object]
      by_cases heq : other = object
      · subst heq
        simp [hobject, hshown]
      · simp [heq]
    ownSlot := shadowed.ownSlot
    pending_le := shadowed.pending_le_enter
    pending_known := shadowed.pending_known_enter
    callbacks_le := by
      have hfilter : object ∉ seen.filter fun other => start.hidesSlot other = false :=
        fun hmem => hnew (Finset.mem_filter.mp hmem).1
      rw [shadowed.sum_weight_enter, Finset.filter_insert, if_pos hshown,
        Finset.sum_insert hfilter]
      omega
    shown := by
      intro hall
      obtain ⟨hpending, hcalls⟩ := shadowed.shown hall
      exact ⟨by simp [Search.entering, hpending, shadowed.references_eq], by rw [hcalls]⟩ }

/-- An object that hides its slot is entered for the first time. -/
theorem enterHidden (prepared : Prepared start tags epoch)
    (hhidden : start.hidesSlot object = true) (hobject : object < start.objects.size)
    (hnew : object ∉ seen) : ∃ search',
    Shadowed start epoch (callbacks + 1) calls graph (graph.references object + rest)
      (visits + 1) (insert object seen) search' ∧ search'.memory = search.memory := by
  have hcounted := shadowed.counted_enter prepared hobject hnew
  rw [shadowed.countObject_of_hidden prepared hhidden] at hcounted
  refine ⟨search.entering epoch object _, ?_, rfl⟩
  have hweight := Graph.sum_weight_references_lt prepared.noHiddenCycle hhidden
  have hle := shadowed.callbacks_le_cons
  exact {
    counted := hcounted
    alike := shadowed.alike
    hasSlots := shadowed.hasSlots
    slot := by
      intro other
      rw [Search.entering, Graph.slot_setSlot shadowed.counted.hasSlots, shadowed.slot other]
      by_cases heq : other = object
      · simp [heq, hhidden]
      · simp [heq]
    ownSlot := shadowed.ownSlot
    pending_le := shadowed.pending_le_enter
    pending_known := shadowed.pending_known_enter
    callbacks_le := by
      rw [shadowed.sum_weight_enter, Finset.filter_insert, if_neg (by simp [hhidden])]
      omega
    shown := fun hshown => absurd hshown (shadowed.not_allShown prepared hhidden) }

/-- A callback for an object that hides its slot: the visitor does not hear of it. -/
theorem hidden (prepared : Prepared start tags epoch)
    (hhidden : start.hidesSlot object = true) : ∃ visits seen search',
    Shadowed start epoch (callbacks + 1) calls graph (graph.references object + rest) visits seen
      search' ∧ search'.memory = search.memory := by
  by_cases hknown : object ∈ seen ∨ start.objects.size ≤ object
  · obtain ⟨visits, search', hnext⟩ := shadowed.reenter prepared hhidden hknown
    exact ⟨visits, seen, search', hnext⟩
  · obtain ⟨hnew, hobject⟩ := not_or.mp hknown
    obtain ⟨search', hnext⟩ :=
      shadowed.enterHidden prepared hhidden (Nat.lt_of_not_le hobject) hnew
    exact ⟨visits + 1, insert object seen, search', hnext⟩

end Step

/-! ## The end of the walk -/

/-- If all objects show their slots, the walk leaves in them what any search does that ends. -/
theorem slot_eq_of_allShown
    (shadowed : Shadowed start epoch callbacks calls graph 0 visits seen search)
    (hshown : start.AllShown) {count : Nat} {reached : Finset Nat} {ended : Search Histogram}
    (hcounted : Counted start.veil epoch count reached ended) (hend : ended.pending = 0)
    (object : Nat) : graph.slot object = ended.graph.slot object := by
  have hpending := (shadowed.shown hshown).1
  have hseen : seen = reached :=
    (shadowed.counted.seen_eq_live hpending).trans (hcounted.seen_eq_live hend).symm
  rw [shadowed.slot, shadowed.counted.slot, hcounted.slot, hseen, Graph.slot_veil]
  split
  next hhidden =>
    -- an object that hides its slot is not reached at all
    have hnew : object ∉ reached := fun hmem => by
      have hvisible := hshown.of_reaches (Graph.mem_live.mp (hcounted.seen_live hmem)).2
      rw [hhidden] at hvisible
      exact nomatch hvisible
    rw [if_neg hnew]
  next => rfl

theorem ownSlot_eq
    (shadowed : Shadowed start epoch callbacks calls graph pending visits seen search)
    {count : Nat} {reached : Finset Nat} {ended : Search Histogram}
    (hcounted : Counted start.veil epoch count reached ended) (cls : Nat) :
    graph.ownSlot cls = ended.graph.ownSlot cls := by
  rw [shadowed.ownSlot, hcounted.ownSlot]
  rfl

end Shadowed

end ExhaustionGuard.Heap
