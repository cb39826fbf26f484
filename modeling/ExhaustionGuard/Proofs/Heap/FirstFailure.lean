import ExhaustionGuard.Proofs.Action.Composition
import ExhaustionGuard.Proofs.Effect.Signals
import ExhaustionGuard.Proofs.Heap.Retagging
import ExhaustionGuard.Proofs.Host.InMemory

/-! # The first failure of a capture

A capture calls its host in a fixed order and stops at the first call that
fails. Its error is the fault of that call, or that the tags are used up; what
was tagged before stays, and nothing is reported.
-/

namespace ExhaustionGuard.Heap

open RecordEntry

variable {σ : Type} {host : HeapHost σ} {heap : σ → Graph}

/-- The calls that tag classes one after another, from a number on. -/
def taggingCalls : Nat → List ClassId → List HeapCall
  | _, [] => []
  | number, cls :: rest =>
      .classSignature cls :: .setClassTag cls number :: taggingCalls (number + 1) rest

/-- All calls of a capture that finds these classes, in order. -/
def captureCalls (classes : List ClassId) : List HeapCall :=
  .loadedClasses :: (taggingCalls 1 classes ++ [.followReferences])

/-- The classes that a host lists; none if it cannot list them. -/
def listing (host : HeapHost σ) (state : σ) : List ClassId :=
  match (host.loadedClasses.finish state).1 with
  | .ok classes => classes
  | .error _ => []

/-- No call of a record failed. -/
def Flawless (record : List RecordEntry) : Prop :=
  ∀ call fault, RecordEntry.called call (some fault) ∉ record

theorem Flawless.cons {call : HeapCall} {record : List RecordEntry} (flawless : Flawless record) :
    Flawless (.called call none :: record) := by
  simpa [Flawless] using flawless

theorem Flawless.append_visited {record : List RecordEntry} (flawless : Flawless record)
    (answers : List Answer) : Flawless (record ++ answers.map .visited) := by
  simpa [Flawless] using flawless

/-! ## Where a tagging breaks off -/

/-- How a tagging that breaks off at a class and its number has written down the last call, and the
fault that it ends with. -/
inductive BreaksAt (cls : ClassId) (number : Nat) : RecordEntry → HostFault → Prop where
  | unread (fault : HostFault) :
      BreaksAt cls number (.called (.classSignature cls) (some fault)) fault
  | exhausted (hnumber : (number : Int) = classTagLimit) :
      BreaksAt cls number (.called (.classSignature cls) none)
        (.failed (.tagSpaceExhausted (number - 1)))
  | unset (fault : HostFault) :
      BreaksAt cls number (.called (.setClassTag cls number) (some fault)) fault

theorem BreaksAt.fault_eq_iff {cls : ClassId} {number : Nat} {entry : RecordEntry}
    {fault : HostFault} (breaks : BreaksAt cls number entry fault) (other : HostFault) :
    fault = other ↔ (∃ call, entry = .called call (some other)) ∨
      other = .failed (.tagSpaceExhausted (number - 1)) ∧ (number : Int) = classTagLimit ∧
        entry = .called (.classSignature cls) none := by
  cases breaks with
  | unread => simp
  | exhausted hnumber => simp [hnumber, eq_comm]
  | unset => simp

theorem BreaksAt.exists_call {cls : ClassId} {number : Nat} {entry : RecordEntry}
    {fault : HostFault} (breaks : BreaksAt cls number entry fault) :
    ∃ call ending, entry = .called call ending ∧
      (call = .classSignature cls ∨ call = .setClassTag cls number) := by
  cases breaks with
  | unread | exhausted => exact ⟨_, _, rfl, .inl rfl⟩
  | unset => exact ⟨_, _, rfl, .inr rfl⟩

namespace Tags

variable {tags : ClassTags} {classes : List ClassId} {state last : σ} {record : List RecordEntry}
  {result : Except HostFault ClassTags}

/-- Classes are tagged in the order of their listing, two calls for each. -/
theorem calls_prefix (htags : Tags host tags classes state record result last) :
    calls record <+: taggingCalls (tags.size + 1) classes ∧
      ∀ given, result = .ok given → calls record = taggingCalls (tags.size + 1) classes := by
  induction htags with
  | done => exact ⟨List.prefix_rfl, fun _ _ => rfl⟩
  | unread => exact ⟨by simp [calls, taggingCalls], nofun⟩
  | exhausted => exact ⟨by simp [calls, taggingCalls], nofun⟩
  | unset _ hassign _ =>
      obtain ⟨rfl, -, rfl⟩ := ClassTags.of_assign_eq_ok hassign
      exact ⟨by simp [calls, taggingCalls, ClassTags.size], nofun⟩
  | tagged _ hassign _ _ ih =>
      obtain ⟨rfl, -, rfl⟩ := ClassTags.of_assign_eq_ok hassign
      simp only [ClassTags.size, Array.size_push] at ih
      refine ⟨?_, fun given hok => ?_⟩
      · simpa [calls, taggingCalls, ClassTags.size] using ih.1
      · simpa [calls, taggingCalls, ClassTags.size] using ih.2 given hok

theorem answers_eq_nil (htags : Tags host tags classes state record result last) :
    answers record = [] := by
  induction htags with
  | done | unread | exhausted | unset => rfl
  | tagged _ _ _ _ ih => exact ih

theorem flawless (htags : Tags host tags classes state record result last) {given : ClassTags}
    (hok : result = .ok given) : Flawless record := by
  induction htags with
  | done => simp [Flawless]
  | unread => simp at hok
  | exhausted => simp at hok
  | unset => simp at hok
  | tagged _ _ _ _ ih => exact (ih hok).cons.cons

/-- A tagging that breaks off does so at the class after those that it has tagged, with the first
call that fails or when no tag is left. -/
theorem breaks (htags : Tags host tags classes state record result last)
    (hlimit : tags.limit = classTagLimit) (hsize : (tags.size : Int) < classTagLimit)
    {fault : HostFault} (hfault : result = .error fault) :
    ∃ cls rest before entry, classes = taggedClasses record ++ cls :: rest ∧
      record = before ++ [entry] ∧ Flawless before ∧
      BreaksAt cls (tags.size + (taggedClasses record).length + 1) entry fault := by
  induction htags with
  | done => simp at hfault
  | @unread _ cls rest =>
      obtain rfl := Except.error.inj hfault
      exact ⟨cls, rest, [], _, rfl, rfl, by simp [Flawless], .unread _⟩
  | @exhausted _ cls rest _ _ _ _ _ _ hassign =>
      obtain rfl := Except.error.inj hfault
      obtain ⟨rfl, hfull, -⟩ := ClassTags.of_assign_eq_error hassign
      exact ⟨cls, rest, [], _, rfl, rfl, by simp [Flawless], .exhausted (by
        rw [hlimit] at hfull
        simp [taggedClasses]
        omega)⟩
  | @unset _ _ cls rest _ _ _ _ _ _ _ hassign _ =>
      obtain rfl := Except.error.inj hfault
      obtain ⟨rfl, -, rfl⟩ := ClassTags.of_assign_eq_ok hassign
      exact ⟨cls, rest, [.called (.classSignature cls) none], _, rfl, rfl, by simp [Flawless],
        .unset _⟩
  | @tagged tags given cls rest _ _ _ _ _ _ _ _ _ hassign _ _ ih =>
      obtain ⟨rfl, hlt, rfl⟩ := ClassTags.of_assign_eq_ok hassign
      simp only [ClassTags.size, Array.size_push] at ih
      obtain ⟨other, behind, before, entry, hclasses, hrecord, hflawless, hbreaks⟩ :=
        ih hlimit (by omega) hfault
      refine ⟨other, behind, .called (.classSignature cls) none ::
        .called (.setClassTag cls (tags.signatures.size + 1)) none :: before, entry, ?_, ?_,
        hflawless.cons.cons, ?_⟩
      · simpa [taggedClasses] using hclasses
      · rw [hrecord]
        rfl
      · convert hbreaks using 1
        simp [taggedClasses, ClassTags.size]
        omega

end Tags

/-! ## Where a capture breaks off -/

/-- How a capture may go, with what it writes down. -/
inductive Capturing (host : HeapHost σ) (epoch : Nat) :
    σ → List RecordEntry → Except HostFault Histogram → σ → Prop where
  | unlisted {state last : σ} {fault : HostFault}
      (hlisted : host.loadedClasses.finish state = (.error fault, last)) :
      Capturing host epoch state [.called .loadedClasses (some fault)] (.error fault) last
  | untagged {state listed last : σ} {classes : List ClassId} {record : List RecordEntry}
      {fault : HostFault} (hlisted : host.loadedClasses.finish state = (.ok classes, listed))
      (htags : Tags host (.empty classTagLimit) classes listed record (.error fault) last) :
      Capturing host epoch state (.called .loadedClasses none :: record) (.error fault) last
  | walked {state listed tagged last : σ} {classes : List ClassId} {record : List RecordEntry}
      {tags : ClassTags} {answers : List Answer} {ending : Except HostFault Unit}
      {histogram : Histogram} (hlisted : host.loadedClasses.finish state = (.ok classes, listed))
      (htags : Tags host (.empty classTagLimit) classes listed record (.ok tags) tagged)
      (hrun : (host.followReferences tagged).run (countingVisitor tags (stampOf epoch)) .empty =
        ⟨ending, last, histogram⟩)
      (hanswers : (host.followReferences tagged).answers (countingVisitor tags (stampOf epoch))
        .empty = answers) :
      Capturing host epoch state
        (.called .loadedClasses none :: record ++ answers.map .visited ++
          [.called .followReferences (faultOf ending)])
        (ending.map fun _ => histogram) last

/-- Recording a capture changes nothing but the record. -/
theorem exists_capturing (host : HeapHost σ) (epoch : Nat) (state : σ) :
    ∃ record result last, Capturing host epoch state record result last ∧
      (capture host epoch).finish state = (result, last) ∧
      (capture host.recorded epoch).finish (state, []) = (result, last, record) := by
  have hrecorded : host.recorded.loadedClasses.finish (state, []) = _ :=
    HostM.finish_recorded .loadedClasses _ state []
  simp only [capture, tagLoadedClasses, HostM.finish_bind, hrecorded]
  cases hlisted : host.loadedClasses.finish state with
  | mk result listed =>
      cases result with
      | error fault => exact ⟨_, _, _, .unlisted hlisted, rfl, rfl⟩
      | ok classes =>
          obtain ⟨record, result, tagged, htags, hplain, hwritten⟩ :=
            exists_tags host (.empty classTagLimit) classes listed [.called .loadedClasses none]
          simp only [faultOf, List.nil_append, hplain, hwritten]
          cases result with
          | error fault => exact ⟨_, _, _, .untagged hlisted htags, rfl, rfl⟩
          | ok tags =>
              refine ⟨_, _, _, .walked hlisted htags rfl rfl, rfl, ?_⟩
              exact congrArg
                (fun finished : Walk.Finished _ _ =>
                  (finished.result.map fun _ => finished.memory, finished.host))
                (Walk.run_recorded _ _ _ _)

theorem size_empty_add_eq_limit_iff (count : Nat) :
    (((ClassTags.empty classTagLimit).size + count + 1 : Nat) : Int) = classTagLimit ↔
      count = 2 ^ 31 - 1 := by
  simp only [ClassTags.empty, ClassTags.size, Array.size_empty, classTagLimit]
  omega

namespace Capturing

variable {epoch : Nat} {state last : σ} {record : List RecordEntry}
  {result : Except HostFault Histogram}

theorem listing_eq {classes : List ClassId} {listed : σ}
    (hlisted : host.loadedClasses.finish state = (.ok classes, listed)) :
    listing host state = classes := by
  rw [listing, hlisted]

/-- A capture makes its calls in order and skips none. -/
theorem calls_prefix (capturing : Capturing host epoch state record result last) :
    calls record <+: captureCalls (listing host state) ∧
      ∀ histogram, result = .ok histogram →
        calls record = captureCalls (listing host state) := by
  cases capturing with
  | unlisted => exact ⟨by simp [calls, captureCalls], nofun⟩
  | untagged hlisted htags =>
      rw [listing_eq hlisted]
      have hprefix := htags.calls_prefix.1.trans (List.prefix_append _ [.followReferences])
      exact ⟨(List.prefix_cons_inj _).mpr hprefix, nofun⟩
  | @walked _ _ _ _ record _ answers ending _ hlisted htags =>
      have hvisits : calls (answers.map .visited) = [] := by simp [calls, List.filterMap_map]
      have hall : calls (.called .loadedClasses none :: record ++ answers.map .visited ++
          [.called .followReferences (faultOf ending)]) = captureCalls (listing host state) := by
        rw [calls_append, calls_append, hvisits, listing_eq hlisted, captureCalls]
        exact congrArg (.loadedClasses :: · ++ [.followReferences])
          ((List.append_nil _).trans (htags.calls_prefix.2 _ rfl))
      exact ⟨hall ▸ List.prefix_rfl, fun _ _ => hall⟩

/-- Only the last call may have failed, and the capture ends with its fault, unless the tags are
used up. -/
theorem ends (capturing : Capturing host epoch state record result last) :
    ∃ before entry, record = before ++ [entry] ∧ Flawless before ∧
      ∀ fault, result = .error fault ↔
        (∃ call, entry = .called call (some fault)) ∨
          fault = .failed (.tagSpaceExhausted (2 ^ 31 - 1)) ∧
            ∃ cls, (listing host state)[2 ^ 31 - 1]? = some cls ∧
              entry = .called (.classSignature cls) none := by
  cases capturing with
  | unlisted =>
      exact ⟨[], _, rfl, by simp [Flawless], fun other => by simp⟩
  | untagged hlisted htags =>
      obtain ⟨cls, rest, before, entry, hclasses, hrecord, hflawless, hbreaks⟩ :=
        htags.breaks rfl (by decide) rfl
      refine ⟨.called .loadedClasses none :: before, entry, by rw [hrecord]; rfl,
        hflawless.cons, fun other => ?_⟩
      rw [Except.error.injEq, hbreaks.fault_eq_iff other, listing_eq hlisted]
      refine or_congr_right ⟨?_, ?_⟩
      · rintro ⟨hother, hnumber, hentry⟩
        have hcount := (size_empty_add_eq_limit_iff _).mp hnumber
        refine ⟨by rw [hother, hcount]; rfl, cls, ?_, hentry⟩
        rw [hclasses, ← hcount]
        simp
      · rintro ⟨hother, listed, -, hentry⟩
        rw [hentry] at hbreaks ⊢
        cases hbreaks with
        | exhausted hnumber =>
            have hcount := (size_empty_add_eq_limit_iff _).mp hnumber
            exact ⟨by rw [hother, hcount]; rfl, hnumber, rfl⟩
  | @walked _ _ _ _ _ _ answers ending _ _ htags =>
      refine ⟨_, _, rfl, (htags.flawless rfl).cons.append_visited answers, fun other => ?_⟩
      cases ending <;> simp [faultOf, Except.map]

/-- Without a walk the visitor was not called, the classes before the one in question are tagged
with their places, and no other slot has changed. -/
theorem before_walk (capturing : Capturing host epoch state record result last)
    (shows : host.Shows heap) (sets : host.SetsOrFails heap) (has : (heap state).HasSlots)
    (hbefore : .followReferences ∉ calls record) :
    answers record = [] ∧ (heap state).Retagged (taggedClasses record) (heap last) ∧
      ∃ call fault, record.getLast? = some (.called call fault) ∧
        (call = .loadedClasses ∧ taggedClasses record = [] ∨
          ∃ cls rest, listing host state = taggedClasses record ++ cls :: rest ∧
            (call = .classSignature cls ∨
              call = .setClassTag cls ((taggedClasses record).length + 1))) := by
  cases capturing with
  | unlisted hlisted =>
      refine ⟨rfl, ?_, _, _, rfl, .inl ⟨rfl, rfl⟩⟩
      rw [shows.heap_of_listed hlisted]
      exact Graph.retagged_numbered has (by simp [taggedClasses])
  | untagged hlisted htags =>
      obtain ⟨cls, rest, before, entry, hclasses, hrecord, -, hbreaks⟩ :=
        htags.breaks rfl (by decide) rfl
      have hnumbered := htags.numbered_taggedClasses shows sets
      rw [shows.heap_of_listed hlisted] at hnumbered
      refine ⟨htags.answers_eq_nil, ?_, ?_⟩
      · rw [hnumbered]
        refine Graph.retagged_numbered has fun other hother => ?_
        exact loaded_of_listed shows hlisted other (hclasses ▸ List.mem_append_left _ hother)
      · obtain ⟨call, ending, rfl, hcall⟩ := hbreaks.exists_call
        refine ⟨call, ending, ?_, .inr ⟨cls, rest, (listing_eq hlisted).trans hclasses, ?_⟩⟩
        · rw [hrecord, ← List.cons_append, List.getLast?_concat]
        · simpa [ClassTags.empty, ClassTags.size, taggedClasses] using hcall
  | walked => simp [calls] at hbefore

end Capturing

/-- What the histogram action notes during a capture: that the classes are tagged, if they are. -/
def taggingLines (host : HeapHost σ) (captures : Captures) (state : σ) : List LogLine :=
  match ((tagLoadedClasses host).finish state).1 with
  | .ok tags => [Action.taggedLine tags captures]
  | .error _ => []

/-- The histogram action makes a capture of the heap, and only notes something in the middle. -/
theorem run_captureHistogram {κ : Type} (around : Surroundings σ κ) (captures : Captures)
    (world : World σ κ) :
    let captured := (capture around.host.heap captures.epoch).finish world.host
    (Action.captureHistogram around captures).run world =
      ⟨captured.1.mapError World.stopOf, { world with host := captured.2 },
        (taggingLines around.host.heap captures world.host).map .logged⟩ := by
  dsimp only
  rw [Action.captureHistogram, Effect.run_bind, World.run_ask, capture, HostM.finish_bind,
    taggingLines]
  cases (tagLoadedClasses around.host.heap).finish world.host with
  | mk result tagged =>
      cases result with
      | error fault => rfl
      | ok tags =>
          simp only [Except.mapError]
          rw [Effect.run_bind_of_ok rfl, World.run_ask]
          rfl

/-- A histogram action whose capture fails has written nothing. -/
theorem run_heapHistogram_of_error {κ : Type} (around : Surroundings σ κ) (entries : Nat)
    (captures : Captures) (event : Exhaustion) {world : World σ κ} {fault : HostFault} {last : σ}
    (hfault : (capture around.host.heap captures.epoch).finish world.host = (.error fault, last)) :
    ((Action.heapHistogram entries captures).act around event).run world =
      ⟨.error (World.stopOf fault), { world with host := last },
        (taggingLines around.host.heap captures world.host).map .logged⟩ := by
  have hcaptured := run_captureHistogram around captures world
  dsimp only at hcaptured
  rw [hfault] at hcaptured
  rw [Action.act, Action.printHistogram, Effect.run_bind, hcaptured]
  rfl

/-- A capture makes its calls in a fixed order, and none after one that fails. It ends with an error
exactly when one of its calls has failed, with the fault of that call, or when the tags are used up.
If it has not come to the walk, the visitor was not called, the classes before the one in question
are tagged with their places in the listing, and no other slot has changed. The histogram action
then ends with the error; it writes nothing, and notes no more than that the classes are tagged. -/
theorem capture_fails_with_host (shows : host.Shows heap) (sets : host.SetsOrFails heap)
    (captures : Captures) {state : σ} (has : (heap state).HasSlots) :
    ∃ record result last,
      (capture host captures.epoch).finish state = (result, last) ∧
      (capture host.recorded captures.epoch).finish (state, []) = (result, last, record) ∧
      calls record <+: captureCalls (listing host state) ∧
      (∀ histogram, result = .ok histogram → calls record = captureCalls (listing host state)) ∧
      (∀ before call fault after, record = before ++ .called call (some fault) :: after →
        after = []) ∧
      (∀ fault, result = .error fault ↔
        (∃ call, .called call (some fault) ∈ record) ∨
          fault = .failed (.tagSpaceExhausted (2 ^ 31 - 1)) ∧
            ∃ cls, (listing host state)[2 ^ 31 - 1]? = some cls ∧
              record.getLast? = some (.called (.classSignature cls) none)) ∧
      (.followReferences ∉ calls record →
        answers record = [] ∧ (heap state).Retagged (taggedClasses record) (heap last) ∧
          ∃ call fault, record.getLast? = some (.called call fault) ∧
            (call = .loadedClasses ∧ taggedClasses record = [] ∨
              ∃ cls rest, listing host state = taggedClasses record ++ cls :: rest ∧
                (call = .classSignature cls ∨
                  call = .setClassTag cls ((taggedClasses record).length + 1)))) ∧
      ∀ {κ : Type} (around : Surroundings σ κ) (entries : Nat) (event : Exhaustion)
        (world : World σ κ) (fault : HostFault),
        around.host.heap = host → world.host = state → result = .error fault →
          ((Action.heapHistogram entries captures).act around event).run world =
            ⟨.error (World.stopOf fault), { world with host := last },
              (taggingLines host captures state).map .logged⟩ := by
  obtain ⟨record, result, last, capturing, hplain, hrecorded⟩ :=
    exists_capturing host captures.epoch state
  obtain ⟨before, entry, hrecord, hflawless, hends⟩ := capturing.ends
  have hfailed : ∀ call fault, .called call (some fault) ∈ record →
      entry = .called call (some fault) := by
    intro call fault hmem
    rw [hrecord, List.mem_append, List.mem_singleton] at hmem
    exact (hmem.resolve_left (hflawless call fault)).symm
  have hlast : record.getLast? = some entry := by rw [hrecord, List.getLast?_concat]
  refine ⟨record, result, last, hplain, hrecorded, capturing.calls_prefix.1,
    capturing.calls_prefix.2, ?_, ?_, capturing.before_walk shows sets has, ?_⟩
  · intro front call fault after hsplit
    -- with an entry behind it, the call would be among those before the last, which did not fail
    rcases List.eq_nil_or_concat after with rfl | ⟨rest, other, rfl⟩
    · rfl
    · rw [hrecord, List.concat_eq_append, ← List.cons_append, ← List.append_assoc] at hsplit
      obtain ⟨rfl, -⟩ := List.append_inj' hsplit rfl
      exact absurd (List.mem_append_right _ List.mem_cons_self) (hflawless call fault)
  · intro fault
    simp only [hends fault, hlast, Option.some_inj]
    refine or_congr_left (exists_congr fun call => ⟨fun hentry => ?_, hfailed call fault⟩)
    rw [hrecord, hentry]
    exact List.mem_append_right _ List.mem_cons_self
  · rintro κ around entries event world fault rfl rfl rfl
    exact run_heapHistogram_of_error around entries captures event hplain

/-! ## The host in memory -/

/-- A heap whose second class cannot be tagged. The class object of the first has a slot. -/
def untaggable : InMemory :=
  { InMemory.empty with
    graph := {
      signatures := #["LNode;".toUTF8.toList, "LLeaf;".toUTF8.toList, "LTree;".toUTF8.toList]
      objects := #[⟨0, 16, [1], none, false⟩, ⟨1, 64, [], some 0, false⟩]
      roots := [0]
      slots := #[-5, 77]
      classSlots := #[0, 9, 9] }
    plan := [⟨.setClassTag, .failed (.unavailable "set_class_tag"), some 2, none⟩] }

/-- What a capture of that heap asks the host. -/
def untaggableRecord : List RecordEntry :=
  [.called .loadedClasses none,
    .called (.classSignature 0) none, .called (.setClassTag 0 1) none,
    .called (.classSignature 1) none,
    .called (.setClassTag 1 2) (some (.failed (.unavailable "set_class_tag")))]

/-- What is left of that heap. -/
def untaggableAfter : InMemory := ((capture InMemory.heap Captures.none.epoch).finish untaggable).2

theorem capture_fails_with_host_untaggable :
    untaggable.graph.HasSlots ∧
      (capture InMemory.heap Captures.none.epoch).finish untaggable =
        (.error (.failed (.unavailable "set_class_tag")), untaggableAfter) ∧
      untaggable.graph.Retagged [0] untaggableAfter.graph ∧ untaggableAfter.graph.slots = #[-5, 1] ∧
      untaggableAfter.graph.classSlots = #[0, 9, 9] := by
  have hslots : untaggable.graph.HasSlots := ⟨rfl, rfl⟩
  obtain ⟨record, result, last, hplain, hrecorded, -, -, -, herror, hbefore, -⟩ :=
    capture_fails_with_host InMemory.shows InMemory.setsOrFails Captures.none hslots
  have hrecord : ((capture InMemory.heap.recorded Captures.none.epoch).finish (untaggable, [])).2.2 =
      untaggableRecord := by decide +kernel
  rw [hrecorded] at hrecord
  subst hrecord
  obtain rfl : untaggableAfter = last := congrArg Prod.snd hplain
  obtain ⟨-, hretagged, -⟩ := hbefore (by decide)
  have hfailed : RecordEntry.called (.setClassTag 1 2)
      (some (.failed (.unavailable "set_class_tag"))) ∈ untaggableRecord := by decide
  rw [(herror _).mpr (.inl ⟨_, hfailed⟩)] at hplain
  exact ⟨hslots, hplain, hretagged, by decide +kernel, by decide +kernel⟩

end ExhaustionGuard.Heap
