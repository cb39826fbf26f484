import ExhaustionGuard.Proofs.Heap.Marks
import ExhaustionGuard.Proofs.Host.Recording

/-! # Tagging the loaded classes

Once all loaded classes are tagged, the tag of each leads back to its signature,
in whatever order they were listed. A tagging that breaks off has set nothing
but class tags.
-/

namespace ExhaustionGuard.Heap

variable {σ : Type} {host : HeapHost σ} {heap : σ → Graph}

/-- The tags that classes can get. -/
def IsClassTag (tag : Int) : Prop := 1 ≤ tag ∧ tag < classTagLimit

namespace ClassTags

variable {tags given : ClassTags} {signature : String} {tag : Int}

theorem of_assign_eq_ok (hassign : tags.assign signature = (.ok tag, given)) :
    tag = tags.signatures.size + 1 ∧ tag < tags.limit ∧
      given = { tags with signatures := tags.signatures.push signature } := by
  simp only [assign] at hassign
  split at hassign
  next hlimit =>
    obtain ⟨htag, rfl⟩ := Prod.mk.inj hassign
    obtain rfl := Except.ok.inj htag
    exact ⟨rfl, hlimit, rfl⟩
  next => simp at hassign

/-- A signature that gets no tag leaves the table alone. -/
theorem of_assign_eq_error {error : HostError}
    (hassign : tags.assign signature = (.error error, given)) :
    error = .tagSpaceExhausted tags.size ∧ tags.limit ≤ tags.size + 1 ∧ given = tags := by
  simp only [assign] at hassign
  split at hassign
  next => simp at hassign
  next hfull =>
    obtain ⟨herror, rfl⟩ := Prod.mk.inj hassign
    exact ⟨(Except.error.inj herror).symm, Int.not_lt.mp hfull, rfl⟩

theorem signature?_assigned (hassign : tags.assign signature = (.ok tag, given)) :
    given.signature? tag = some signature := by
  obtain ⟨rfl, _, rfl⟩ := of_assign_eq_ok hassign
  have hpos : ¬ ((tags.signatures.size : Int) + 1 < 1) := by omega
  simp [signature?, hpos]

/-- A tag keeps its meaning. -/
theorem signature?_of_assign (hassign : tags.assign signature = (.ok tag, given)) {older : Int}
    {name : String} (hname : tags.signature? older = some name) :
    given.signature? older = some name := by
  obtain ⟨_, _, rfl⟩ := of_assign_eq_ok hassign
  simp only [signature?] at hname ⊢
  split at hname
  next => simp at hname
  next hpos =>
    obtain ⟨hlt, hget⟩ := Array.getElem?_eq_some_iff.mp hname
    rw [if_neg hpos, Array.getElem?_push_lt hlt, hget]

theorem isClassTag_of_assign (hassign : tags.assign signature = (.ok tag, given))
    (hlimit : tags.limit = classTagLimit) : IsClassTag tag := by
  obtain ⟨rfl, hlt, _⟩ := of_assign_eq_ok hassign
  exact ⟨by omega, hlimit ▸ hlt⟩

theorem limit_of_assign (hassign : tags.assign signature = (.ok tag, given)) :
    given.limit = tags.limit := by
  obtain ⟨_, _, rfl⟩ := of_assign_eq_ok hassign
  rfl

theorem size_of_assign (hassign : tags.assign signature = (.ok tag, given)) :
    given.size = tags.size + 1 := by
  obtain ⟨_, _, rfl⟩ := of_assign_eq_ok hassign
  simp [size]

/-- The tags that have a meaning are the numbers of the signatures, counted from one. -/
theorem signature?_eq_some_iff :
    tags.signature? tag = some signature ↔
      ∃ place : Nat, tags.signatures[place]? = some signature ∧ tag = place + 1 := by
  rw [signature?]
  split
  next hlow =>
    constructor
    · nofun
    · rintro ⟨place, -, rfl⟩
      omega
  next hpos =>
    constructor
    · exact fun hget => ⟨(tag - 1).toNat, hget, by omega⟩
    · rintro ⟨place, hget, rfl⟩
      simpa using hget

theorem exists_assign (hroom : (tags.size : Int) + 1 < tags.limit) (signature : String) :
    ∃ tag given, tags.assign signature = (.ok tag, given) := by
  exact ⟨_, _, if_pos hroom⟩

end ClassTags

/-! ## What a tagging keeps, however it ends -/

variable {good : Graph → Prop}

theorem good_tagClasses (shows : host.Shows heap)
    (hgood : ∀ graph cls tag, IsClassTag tag → good graph → good (graph.setClassTag cls tag))
    (classes : List ClassId) {tags : ClassTags} (hlimit : tags.limit = classTagLimit) {state : σ}
    (hstate : good (heap state)) :
    good (heap ((tagClasses host tags classes).finish state).2) := by
  obtain ⟨_, result, last, htags, hfinish, -⟩ := exists_tags host tags classes state []
  rw [hfinish]
  clear hfinish
  induction htags with
  | done => exact hstate
  | unread hread => rwa [shows.heap_of_read hread]
  | exhausted hread => rwa [shows.heap_of_read hread]
  | unset hread hassign hset =>
      rw [← shows.heap_of_read hread] at hstate
      rcases shows.heap_of_unset hset with hsame | htagged
      · rwa [hsame]
      · rw [htagged]
        exact hgood _ _ _ (ClassTags.isClassTag_of_assign hassign hlimit) hstate
  | tagged hread hassign hset _ ih =>
      rw [← shows.heap_of_read hread] at hstate
      refine ih ((ClassTags.limit_of_assign hassign).trans hlimit) ?_
      rw [shows.heap_of_set hset]
      exact hgood _ _ _ (ClassTags.isClassTag_of_assign hassign hlimit) hstate

theorem good_tagLoadedClasses (good : Graph → Prop) (shows : host.Shows heap)
    (hgood : ∀ graph cls tag, IsClassTag tag → good graph → good (graph.setClassTag cls tag))
    {state : σ} (hstate : good (heap state)) :
    good (heap ((tagLoadedClasses host).finish state).2) := by
  refine HostM.finish_bind_state (fun state => good (heap state)) ?_ ?_
  · rwa [shows.loadedClasses]
  · intro classes after _ hafter
    exact good_tagClasses shows hgood classes rfl hafter

/-! ## What a tagging brings about when it ends well -/

/-- The tag of a class leads back to its signature. -/
def Names (tags : ClassTags) (graph : Graph) (cls : Nat) : Prop :=
  tags.signature? (classBits (graph.classTag cls)) = some (graph.signature cls)

variable {tags given : ClassTags}

/-- Tagging one class with its signature gives it its name and leaves the others theirs. -/
theorem names_assign {graph : Graph} (has : graph.HasSlots) {cls : Nat} {tag : Int}
    (hcls : cls < graph.signatures.size) (hlimit : tags.limit = classTagLimit)
    (hassign : tags.assign (graph.signature cls) = (.ok tag, given)) {other : Nat}
    (hother : other = cls ∨ Names tags graph other) :
    Names given (graph.setClassTag cls tag) other := by
  have htag := ClassTags.isClassTag_of_assign hassign hlimit
  rw [Names, Graph.classTag_setClassTag has hcls, (Graph.alike_setClassTag _ _ _).signature_eq]
  split
  next heq =>
    rw [heq, classBits_of_tag (by have := htag.1; omega) htag.2]
    exact ClassTags.signature?_assigned hassign
  next hne => exact ClassTags.signature?_of_assign hassign (hother.resolve_left hne)

theorem names_tagClasses (shows : host.Shows heap) {classes : List ClassId} {state last : σ}
    (has : (heap state).HasSlots) (hloaded : ∀ cls ∈ classes, cls < (heap state).signatures.size)
    (hlimit : tags.limit = classTagLimit)
    (hok : (tagClasses host tags classes).finish state = (.ok given, last)) {cls : Nat}
    (hcls : cls ∈ classes ∨ Names tags (heap state) cls) : Names given (heap last) cls := by
  -- a class may be listed twice, so each step must also keep the names given before it
  obtain ⟨record, htags⟩ := Tags.of_finish hok
  generalize hresult : Except.ok given = result at htags
  clear hok
  induction htags with
  | done =>
      obtain rfl := Except.ok.inj hresult
      exact hcls.resolve_left List.not_mem_nil
  | unread | exhausted | unset => simp at hresult
  | @tagged _ assigned head rest state _ _ _ signature tag _ _ hread hassign hset _ ih =>
      obtain rfl : signature = (heap state).signature head :=
        shows.signature_eq (hloaded head List.mem_cons_self) (congrArg Prod.fst hread)
      have hheap : heap _ = (heap state).setClassTag head tag :=
        (shows.heap_of_set hset).trans (by rw [shows.heap_of_read hread])
      have alike := Graph.alike_setClassTag (heap state) head tag
      refine ih (hheap ▸ has.setClassTag head tag) ?_
        ((ClassTags.limit_of_assign hassign).trans hlimit) ?_ hresult
      · intro cls hmem
        rw [hheap, alike.signatures]
        exact hloaded cls (List.mem_cons_of_mem _ hmem)
      · rw [hheap]
        rcases hcls with hmem | hnamed
        · rcases List.mem_cons.mp hmem with rfl | hrest
          · exact .inr (names_assign has (hloaded _ hmem) hlimit hassign (.inl rfl))
          · exact .inl hrest
        · exact .inr (names_assign has (hloaded _ List.mem_cons_self) hlimit hassign
            (.inr hnamed))

/-- After all loaded classes have been tagged, the graph differs from what it was at most in its
slots, and the tag of every loaded class names it. -/
theorem names_tagLoadedClasses (shows : host.Shows heap) {state tagged : σ}
    (has : (heap state).HasSlots)
    (hok : (tagLoadedClasses host).finish state = (.ok tags, tagged)) {cls : Nat}
    (hcls : cls < (heap state).signatures.size) : Names tags (heap tagged) cls := by
  obtain ⟨classes, listed, hlisted, hok⟩ := HostM.of_finish_bind_ok hok
  have hheap := shows.heap_of_listed hlisted
  have hmem : ∀ cls, cls ∈ classes ↔ cls < (heap state).signatures.size :=
    shows.mem_loadedClasses (by rw [hlisted])
  refine names_tagClasses shows (hheap ▸ has) ?_ rfl hok (.inl ((hmem cls).mpr hcls))
  intro cls hclass
  rw [hheap]
  exact (hmem cls).mp hclass

theorem tagLoadedClasses_shape (shows : host.Shows heap) {state after : σ}
    (has : (heap state).HasSlots) {result : Except HostFault ClassTags}
    (hfinish : (tagLoadedClasses host).finish state = (result, after)) :
    (heap after).HasSlots ∧ (heap after).Alike (heap state) := by
  have hshape := good_tagLoadedClasses
    (fun graph => graph.HasSlots ∧ graph.Alike (heap state)) shows ?_ ⟨has, .refl _⟩
  · rwa [hfinish] at hshape
  · intro graph cls tag _ hgraph
    exact ⟨hgraph.1.setClassTag cls tag, (Graph.alike_setClassTag graph cls tag).trans hgraph.2⟩

/-- Where no operation fails, the loaded classes are tagged as long as there are tags for all. -/
theorem exists_tagClasses {steady : σ → Prop} (reliable : host.Reliable steady)
    (classes : List ClassId) (htags : tags.limit = classTagLimit)
    (hroom : (tags.size : Int) + classes.length < classTagLimit) {state : σ}
    (hsteady : steady state) :
    ∃ given tagged, (tagClasses host tags classes).finish state = (.ok given, tagged) ∧
      steady tagged := by
  induction classes generalizing tags state with
  | nil => exact ⟨tags, state, rfl, hsteady⟩
  | cons cls rest ih =>
      obtain ⟨signature, after, hsignature, hafter⟩ := reliable.classSignature cls hsteady
      have hnext : (tags.size : Int) + 1 < tags.limit := by
        rw [List.length_cons] at hroom
        omega
      obtain ⟨tag, given, hassign⟩ := ClassTags.exists_assign hnext signature
      obtain ⟨tagged, htagged, hsteady⟩ := reliable.setClassTag cls tag hafter
      have hsize := ClassTags.size_of_assign hassign
      obtain ⟨last, final, hlast, hfinal⟩ := ih ((ClassTags.limit_of_assign hassign).trans htags)
        (by rw [List.length_cons] at hroom; omega) hsteady
      refine ⟨last, final, ?_, hfinal⟩
      rw [tagClasses, HostM.finish_bind_of_ok hsignature, hassign]
      exact (HostM.finish_bind_of_ok htagged _).trans hlast

theorem exists_tagLoadedClasses {steady : σ → Prop} (reliable : host.Reliable steady) {state : σ}
    (hsteady : steady state)
    (hclasses : ∀ classes after, host.loadedClasses.finish state = (.ok classes, after) →
      classes.length < classTagLimit) :
    ∃ tags tagged, (tagLoadedClasses host).finish state = (.ok tags, tagged) ∧ steady tagged := by
  obtain ⟨classes, listed, hlisted, hafter⟩ := reliable.loadedClasses hsteady
  have hroom : ((ClassTags.empty classTagLimit).size : Int) + classes.length < classTagLimit := by
    simpa [ClassTags.empty, ClassTags.size] using hclasses classes listed hlisted
  obtain ⟨tags, tagged, htagged, hsteady⟩ := exists_tagClasses reliable classes rfl hroom hafter
  exact ⟨tags, tagged, (HostM.finish_bind_of_ok hlisted _).trans htagged, hsteady⟩

end ExhaustionGuard.Heap
