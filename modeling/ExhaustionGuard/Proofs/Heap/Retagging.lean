import ExhaustionGuard.Proofs.Heap.Numbering
import ExhaustionGuard.Proofs.Host.Recording

/-! # What tagging classes does to the slots

Tagging classes one after another gives each the number of its place in the
list, and leaves every slot alone that belongs to none of them. A tagging that
breaks off has done so for the classes before.
-/

namespace ExhaustionGuard.Heap

namespace Graph

variable {graph : Graph}

/-- The classes of a list hold their places in it, counted from one; a class that is listed again
holds the last of them. No other slot has changed. -/
structure Retagged (old : Graph) (classes : List ClassId) (new : Graph) : Prop where
  alike : new.Alike old
  classTag : ∀ before cls after, classes = before ++ cls :: after → cls ∉ after →
    new.classTag cls = before.length + 1
  slot : ∀ object, (∀ cls ∈ classes, old.classObject? cls ≠ some object) →
    new.slot object = old.slot object
  ownSlot : ∀ cls, (cls ∈ classes → old.classObject? cls ≠ none) →
    new.ownSlot cls = old.ownSlot cls

theorem alike_numbered (graph : Graph) (number : Nat) (classes : List ClassId) :
    (graph.numbered number classes).Alike graph := by
  induction classes generalizing graph number with
  | nil => exact .refl graph
  | cons cls rest ih => exact (ih _ _).trans (alike_setClassTag graph cls number)

theorem HasSlots.numbered (has : graph.HasSlots) (number : Nat) (classes : List ClassId) :
    (graph.numbered number classes).HasSlots := by
  induction classes generalizing graph number with
  | nil => exact has
  | cons cls rest ih => exact ih (has.setClassTag cls number) (number + 1)

theorem numbered_concat (graph : Graph) (number : Nat) (classes : List ClassId) (cls : ClassId) :
    graph.numbered number (classes ++ [cls]) =
      (graph.numbered number classes).setClassTag cls (number + classes.length : Nat) := by
  induction classes generalizing graph number with
  | nil => rfl
  | cons head rest ih =>
      rw [List.cons_append, numbered, numbered, ih, List.length_cons, Nat.add_right_comm,
        Nat.add_assoc]

/-- Numbering classes that are loaded tags each with its place. -/
theorem retagged_numbered (has : graph.HasSlots) {classes : List ClassId}
    (hloaded : ∀ cls ∈ classes, cls < graph.signatures.size) :
    graph.Retagged classes (graph.numbered 1 classes) := by
  -- the last class that is tagged decides, so the list grows at its end
  induction classes using List.reverseRecOn with
  | nil => exact ⟨.refl graph, by simp, fun _ _ => rfl, fun _ _ => rfl⟩
  | append_singleton classes last ih =>
      have hbefore : ∀ cls ∈ classes, cls < graph.signatures.size := fun cls hcls =>
        hloaded cls (List.mem_append_left _ hcls)
      have hlast : last < (graph.numbered 1 classes).signatures.size := by
        rw [(alike_numbered graph 1 classes).signatures]
        exact hloaded last (List.mem_append_right _ List.mem_cons_self)
      have hslots := has.numbered 1 classes
      have retagged := ih hbefore
      rw [numbered_concat]
      refine ⟨(alike_setClassTag _ _ _).trans retagged.alike, ?_, ?_, ?_⟩
      · intro before cls after hclasses hafter
        rw [classTag_setClassTag hslots hlast]
        rcases List.eq_nil_or_concat after with rfl | ⟨rest, other, rfl⟩
        · obtain ⟨rfl, hsame⟩ := List.append_inj' hclasses rfl
          rw [if_pos (List.cons.inj hsame).1.symm]
          omega
        · rw [List.concat_eq_append] at hclasses hafter
          rw [← List.cons_append, ← List.append_assoc] at hclasses
          obtain ⟨hfront, hsame⟩ := List.append_inj' hclasses rfl
          obtain rfl : last = other := (List.cons.inj hsame).1
          have hne : cls ≠ last := fun heq => hafter (by simp [heq])
          rw [if_neg hne]
          exact retagged.classTag before cls rest hfront fun hmem =>
            hafter (List.mem_append_left _ hmem)
      · intro object hobject
        rw [slot_setClassTag hslots, retagged.alike.classObject?_eq,
          if_neg (hobject last (List.mem_append_right _ List.mem_cons_self))]
        exact retagged.slot object fun cls hcls => hobject cls (List.mem_append_left _ hcls)
      · intro cls hcls
        rw [ownSlot_setClassTag hslots, retagged.alike.classObject?_eq, if_neg]
        · exact retagged.ownSlot cls fun hmem => hcls (List.mem_append_left _ hmem)
        · rintro ⟨hnone, rfl, -⟩
          exact hcls (List.mem_append_right _ List.mem_cons_self) hnone

end Graph

/-! ## However a tagging ends -/

variable {σ : Type} {host : HeapHost σ} {heap : σ → Graph} {tags : ClassTags}
  {classes : List ClassId} {state last : σ} {record : List RecordEntry}
  {result : Except HostFault ClassTags}

/-- However a tagging ends, it has numbered classes from the front of the list on, and all of them
if it ends well. -/
theorem Tags.exists_numbered (shows : host.Shows heap)
    (htags : Tags host tags classes state record result last) :
    ∃ done, done <+: classes ∧ heap last = (heap state).numbered (tags.size + 1) done ∧
      ∀ given, result = .ok given → done = classes := by
  induction htags with
  | done tags state => exact ⟨[], List.nil_prefix, rfl, fun _ _ => rfl⟩
  | unread hread => exact ⟨[], List.nil_prefix, shows.heap_of_read hread, nofun⟩
  | exhausted hread => exact ⟨[], List.nil_prefix, shows.heap_of_read hread, nofun⟩
  | @unset _ _ cls _ _ _ _ _ _ _ hread hassign hset =>
      obtain ⟨rfl, -, rfl⟩ := ClassTags.of_assign_eq_ok hassign
      rcases shows.heap_of_unset hset with hsame | htagged
      · exact ⟨[], List.nil_prefix, hsame.trans (shows.heap_of_read hread), nofun⟩
      · rw [shows.heap_of_read hread] at htagged
        exact ⟨[cls], by simp, htagged, nofun⟩
  | @tagged _ _ cls _ _ _ _ _ _ _ _ _ hread hassign hset _ ih =>
      obtain ⟨rfl, -, rfl⟩ := ClassTags.of_assign_eq_ok hassign
      obtain ⟨done, hdone, hnumbered, hall⟩ := ih
      refine ⟨cls :: done, by simpa using hdone, ?_, fun given hok => by rw [hall given hok]⟩
      rw [hnumbered, shows.heap_of_set hset, shows.heap_of_read hread]
      simp [ClassTags.size, Graph.numbered]

/-- The record tells which classes were numbered. -/
theorem Tags.numbered_taggedClasses (shows : host.Shows heap) (sets : host.SetsOrFails heap)
    (htags : Tags host tags classes state record result last) :
    heap last = (heap state).numbered (tags.size + 1) (RecordEntry.taggedClasses record) := by
  induction htags with
  | done tags state => rfl
  | unread hread => exact shows.heap_of_read hread
  | exhausted hread => exact shows.heap_of_read hread
  | unset hread _ hset =>
      have hkept := sets _ _ _ _ (congrArg Prod.fst hset)
      rw [hset] at hkept
      exact hkept.trans (shows.heap_of_read hread)
  | tagged hread hassign hset _ ih =>
      obtain ⟨rfl, -, rfl⟩ := ClassTags.of_assign_eq_ok hassign
      rw [ih, shows.heap_of_set hset, shows.heap_of_read hread]
      simp [ClassTags.size, Graph.numbered, RecordEntry.taggedClasses]

/-- A tagging that ends well has had a tag for each class. -/
theorem Tags.length_lt (htags : Tags host tags classes state record result last)
    (hlimit : tags.limit = classTagLimit) (hsize : (tags.size : Int) < classTagLimit)
    {given : ClassTags} (hok : result = .ok given) :
    (tags.size : Int) + classes.length < classTagLimit := by
  induction htags with
  | done => simpa using hsize
  | unread => simp at hok
  | exhausted => simp at hok
  | unset => simp at hok
  | tagged _ hassign _ _ ih =>
      obtain ⟨rfl, hlt, rfl⟩ := ClassTags.of_assign_eq_ok hassign
      simp only [ClassTags.size, Array.size_push, List.length_cons] at ih ⊢
      have hrest := ih hlimit (by omega) hok
      omega

/-! ## All loaded classes -/

theorem loaded_of_listed (shows : host.Shows heap) {listed : σ}
    (hlisted : host.loadedClasses.finish state = (.ok classes, listed)) :
    ∀ cls ∈ classes, cls < (heap state).signatures.size := by
  intro cls hcls
  exact (shows.mem_loadedClasses (congrArg Prod.fst hlisted) cls).mp hcls

/-- However the tagging of all loaded classes ends, it has numbered some of them. -/
theorem exists_numbered_tagLoadedClasses (shows : host.Shows heap) (state : σ) :
    ∃ done, (∀ cls ∈ done, cls < (heap state).signatures.size) ∧
      heap ((tagLoadedClasses host).finish state).2 = (heap state).numbered 1 done := by
  rw [tagLoadedClasses, HostM.finish_bind]
  cases hlisted : host.loadedClasses.finish state with
  | mk listing listed =>
      have hheap := shows.heap_of_listed hlisted
      cases listing with
      | error fault => exact ⟨[], by simp, hheap⟩
      | ok classes =>
          obtain ⟨_, _, last, htags, hfinish, _⟩ :=
            exists_tags host (.empty classTagLimit) classes listed []
          obtain ⟨done, hdone, hnumbered, _⟩ := htags.exists_numbered shows
          refine ⟨done, fun cls hcls => loaded_of_listed shows hlisted cls (hdone.subset hcls), ?_⟩
          dsimp only
          rw [hfinish, hnumbered]
          exact congrArg _ hheap

/-- Once all loaded classes are tagged, each holds its place in the listing. -/
theorem retagged_tagLoadedClasses (shows : host.Shows heap) (has : (heap state).HasSlots)
    (htagged : (tagLoadedClasses host).finish state = (.ok tags, last)) :
    ∃ classes listed, host.loadedClasses.finish state = (.ok classes, listed) ∧
      (classes.length : Int) < classTagLimit ∧ (heap state).Retagged classes (heap last) := by
  obtain ⟨classes, listed, hlisted, hfinish⟩ := HostM.of_finish_bind_ok htagged
  obtain ⟨_, htags⟩ := Tags.of_finish hfinish
  obtain ⟨done, _, hnumbered, hall⟩ := htags.exists_numbered shows
  obtain rfl := hall tags rfl
  rw [shows.heap_of_listed hlisted] at hnumbered
  have hlength := htags.length_lt rfl (by decide) rfl
  simp only [ClassTags.empty, ClassTags.size, Array.size_empty, Nat.cast_zero, Int.zero_add]
    at hlength
  refine ⟨done, listed, hlisted, hlength, ?_⟩
  rw [hnumbered]
  exact Graph.retagged_numbered has (loaded_of_listed shows hlisted)

end ExhaustionGuard.Heap
