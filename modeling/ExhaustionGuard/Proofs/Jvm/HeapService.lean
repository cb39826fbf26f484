import ExhaustionGuard.Jvm.Scripted
import ExhaustionGuard.Jvm.Tooling
import ExhaustionGuard.Proofs.Heap.Numbering
import Mathlib.Data.List.TakeWhile

/-! # Machines that serve their heap

A machine serves a heap graph if all functions of the tool interface are there
and succeed, and its walks call back once for each reference, in any order,
and follow the references of an object just when they are told to.
-/

namespace ExhaustionGuard

namespace Heap.Graph

/-- An object as a machine reports it: without its slot, if it hides that. -/
def report (graph : Graph) (object : Nat) : Jvm.Report :=
  let reached := graph.reached object
  ⟨reached.classTag, reached.size, if graph.hidesSlot object then none else some reached.slot, true⟩

/-- The graph after a callback, which leaves nothing in a slot that it is not shown. -/
def withSlot (graph : Graph) (object : Nat) : Option Int → Graph
  | some tag => graph.setSlot object tag
  | none => graph

end Heap.Graph

namespace Jvm

open Heap

/-- A walk of a machine that goes through a graph from pending references, at least as long as there
is patience for so many callbacks. -/
inductive CallbackWalk.Searches {State : Type} (heap : State → Graph) :
    Nat → CallbackWalk State → Graph → Multiset Nat → Prop where
  | outOfPatience {walk : CallbackWalk State} {graph : Graph} {pending : Multiset Nat} :
      Searches heap 0 walk graph pending
  | returned {patience : Nat} {graph : Graph} {state : State} (hgraph : heap state = graph) :
      Searches heap (patience + 1) (.returned .success state) graph 0
  | reported {patience object : Nat} {graph : Graph} {pending rest : Multiset Nat}
      {resume : Reaction → Option Int → CallbackWalk State}
      (hpending : pending = object ::ₘ rest)
      (hvisit : ∀ slot, Searches heap patience (resume .visitObjects slot)
        (graph.withSlot object slot) (graph.references object + rest))
      (hskip : ∀ slot, Searches heap patience (resume .skip slot)
        (graph.withSlot object slot) rest) :
      Searches heap (patience + 1) (.reported (graph.report object) resume) graph pending

/-- On the states in question every function of the tool interface is there and succeeds on the
graph that the state shows. The loaded classes may be listed in any order. -/
structure Machine.Serves (J : Machine) (heap : J.State → Graph) (steady : J.State → Prop) :
    Prop where
  provides : ∀ {state} function, steady state → J.provides function state = true
  loadedClasses : ∀ {state}, steady state → ∃ classes next,
    J.loadedClasses state = (⟨.success, (classes.length : Int), some classes⟩, next) ∧
      classes.Perm (List.range (heap state).signatures.size) ∧ heap next = heap state ∧
        steady next
  classSignature : ∀ {state cls}, steady state → cls < (heap state).signatures.size →
    ∃ bytes next, J.classSignature cls state = (⟨.success, some bytes⟩, next) ∧
      Text.beforeNul bytes = (heap state).signatures.getD cls [] ∧ heap next = heap state ∧
        steady next
  setTag : ∀ {state cls} tag, steady state → cls < (heap state).signatures.size →
    ∃ next, J.command (.setTag cls tag) state = (.success, next) ∧
      heap next = (heap state).setClassTag cls tag ∧ steady next
  deallocate : ∀ {state} buffer, steady state →
    ∃ next, J.deallocate buffer state = (.success, next) ∧ heap next = heap state ∧ steady next
  followReferences : ∀ {state}, steady state → ∃ walk,
    J.followReferences state = .begins walk ∧
      walk.Searches heap ((heap state).patience + 1) (heap state) (heap state).roots

namespace Tooling

variable {J : Machine} {heap : J.State → Graph} {steady : J.State → Prop}

theorem run_bind_of_ok {α β : Type} {first : ToolM J α} {session after : Session J} {value : α}
    (hfirst : first.run session = (.ok value, after)) (next : α → ToolM J β) :
    (first >>= next).run session = (next value).run after := by
  change (ExceptT.bindCont next (first.run session).1).run (first.run session).2 = _
  rw [hfirst]
  rfl

theorem finish_named_of_ok {α : Type} {use : ToolM J α} {session after : Session J} {value : α}
    (huse : use.run session = (.ok value, after)) (operation : String) :
    (named operation use).finish session = (.ok value, after) := by
  have hrun : StateT.run use.run session = pure (.ok value, after) := huse
  rw [HostM.finish, named, ExceptT.run_mk, StateT.run_bind, hrun]
  rfl

theorem run_whenProvided {α : Type} {function : ToolFunction} {session : Session J}
    (hprovides : J.provides function session.state = true) (use : ToolM J α) :
    (whenProvided function use).run session = use.run session := by
  change (if J.provides function session.state = true then _ else _) = _
  rw [if_pos hprovides]

theorem run_deallocate (serves : J.Serves heap steady) {session : Session J}
    (hsteady : steady session.state) (buffer : BufferId) :
    ∃ after, (deallocate (some buffer)).run session = (.ok (), after) ∧
      heap after.state = heap session.state ∧ steady after.state := by
  obtain ⟨next, hdeallocate, hheap, hnext⟩ := serves.deallocate buffer hsteady
  let answered : Session J := { session with state := next }
  refine ⟨answered.returnBuffer buffer true, ?_, hheap, hnext⟩
  rw [deallocate, run_whenProvided (serves.provides _ hsteady)]
  simp only [ExceptT.run_mk, hdeallocate]
  rfl

theorem run_listClasses (serves : J.Serves heap steady) {session : Session J}
    (hsteady : steady session.state) :
    ∃ classes buffer after, (J.loadedClasses session.state).1.buffer = some classes ∧
      listClasses.run session = (.ok ((classes.length : Int), some ⟨buffer, classes⟩), after) ∧
        classes.Perm (List.range (heap session.state).signatures.size) ∧
          heap after.state = heap session.state ∧ steady after.state := by
  obtain ⟨classes, next, hclasses, hperm, hheap, hnext⟩ := serves.loadedClasses hsteady
  let answered : Session J := { session with state := next }
  refine ⟨classes, session.buffers.length, (answered.note (.tool .getLoadedClasses)).addBuffer,
    by rw [hclasses], ?_, hperm, hheap, hnext⟩
  rw [listClasses, run_whenProvided (serves.provides _ hsteady)]
  simp only [ExceptT.run_mk, hclasses]
  rfl

theorem run_signatureBuffer (serves : J.Serves heap steady) {session : Session J} {cls : ClassId}
    (hsteady : steady session.state) (hcls : cls < (heap session.state).signatures.size) :
    ∃ bytes buffer after,
      (signatureBuffer cls).run session = (.ok (some ⟨buffer, bytes⟩), after) ∧
        Text.beforeNul bytes = (heap session.state).signatures.getD cls [] ∧
          heap after.state = heap session.state ∧ steady after.state := by
  obtain ⟨bytes, next, hbytes, hsignature, hheap, hnext⟩ := serves.classSignature hsteady hcls
  let answered : Session J := { session with state := next }
  refine ⟨bytes, session.buffers.length,
    (answered.note (.tool (.getClassSignature cls))).addBuffer, ?_, hsignature, hheap, hnext⟩
  rw [signatureBuffer, run_whenProvided (serves.provides _ hsteady)]
  simp only [ExceptT.run_mk, hbytes]
  rfl

/-- A buffer that was handed out is copied and handed back. -/
theorem run_copy_deallocate (serves : J.Serves heap steady) {α β : Type} {session : Session J}
    (hsteady : steady session.state) (held : Held α) (read : α → β) :
    ∃ after,
      (do let contents ← copy held; deallocate (some held.buffer); pure (read contents) :
        ToolM J β).run session = (.ok (read held.contents), after) ∧
      heap after.state = heap session.state ∧ steady after.state := by
  let noted := session.note (.read held.buffer)
  have hcopy : (copy held).run session = (.ok held.contents, noted) := rfl
  have hnoted : steady noted.state := hsteady
  obtain ⟨after, hdeallocate, hheap, hafter⟩ := run_deallocate serves hnoted held.buffer
  refine ⟨after, ?_, hheap, hafter⟩
  rw [run_bind_of_ok hcopy, run_bind_of_ok hdeallocate]
  rfl

/-- The loaded classes come out in the order in which the machine lists them. -/
theorem run_loadedClasses (serves : J.Serves heap steady) {session : Session J}
    (hsteady : steady session.state) :
    ∃ classes after, (J.loadedClasses session.state).1.buffer = some classes ∧
      loadedClasses.run session = (.ok classes, after) ∧
        classes.Perm (List.range (heap session.state).signatures.size) ∧
          heap after.state = heap session.state ∧ steady after.state := by
  obtain ⟨classes, buffer, listed, hbuffer, hlisted, hperm, hheap, hlistedSteady⟩ :=
    run_listClasses serves hsteady
  rw [loadedClasses, run_bind_of_ok hlisted]
  by_cases hcount : (classes.length : Int) ≤ 0
  · obtain rfl : classes = [] := List.length_eq_zero_iff.mp (by omega)
    obtain ⟨after, hdeallocate, hafter, hafterSteady⟩ := run_deallocate serves hlistedSteady buffer
    refine ⟨[], after, hbuffer, ?_, hperm, hafter.trans hheap, hafterSteady⟩
    simp only [hcount, if_true]
    rw [run_bind_of_ok hdeallocate]
    rfl
  · obtain ⟨after, hcopied, hafter, hafterSteady⟩ :=
      run_copy_deallocate serves hlistedSteady ⟨buffer, classes⟩ (List.take classes.length)
    refine ⟨classes, after, hbuffer, ?_, hperm, hafter.trans hheap, hafterSteady⟩
    simp only [hcount, if_false, Int.toNat_natCast]
    rw [hcopied, List.take_length]

theorem run_classSignature (serves : J.Serves heap steady) {session : Session J} {cls : ClassId}
    (hsteady : steady session.state) (hcls : cls < (heap session.state).signatures.size) :
    ∃ after, (classSignature cls).run session =
        (.ok ((heap session.state).signature cls), after) ∧
      heap after.state = heap session.state ∧ steady after.state := by
  obtain ⟨bytes, buffer, told, htold, hbytes, hheap, htoldSteady⟩ :=
    run_signatureBuffer serves hsteady hcls
  obtain ⟨after, hcopied, hafter, hafterSteady⟩ :=
    run_copy_deallocate serves htoldSteady ⟨buffer, bytes⟩ Text.decodeCString
  refine ⟨after, ?_, hafter.trans hheap, hafterSteady⟩
  rw [classSignature, run_bind_of_ok htold]
  refine hcopied.trans ?_
  rw [Text.decodeCString, hbytes, Graph.signature]

theorem run_setTag (serves : J.Serves heap steady) {session : Session J} {cls : ClassId}
    (tag : Int) (hsteady : steady session.state)
    (hcls : cls < (heap session.state).signatures.size) :
    ∃ after, (command (.setTag cls tag)).run session = (.ok (), after) ∧
      heap after.state = (heap session.state).setClassTag cls tag ∧ steady after.state := by
  obtain ⟨next, hset, hheap, hnext⟩ := serves.setTag tag hsteady hcls
  let answered : Session J := { session with state := next }
  refine ⟨answered.note (.tool (.command (.setTag cls tag))), ?_, hheap, hnext⟩
  rw [command, run_whenProvided (serves.provides _ hsteady)]
  simp only [ExceptT.run_mk, hset]
  rfl

/-- The tool interface of a machine that serves its heap numbers classes like any other host. -/
theorem numbers (serves : J.Serves heap steady) :
    Tooling.heap.Numbers (fun session : Session J => heap session.state)
      fun session => steady session.state where
  classSignature := by
    intro session cls hsteady hcls
    obtain ⟨after, hsignature, hafter⟩ := run_classSignature serves hsteady hcls
    exact ⟨after, finish_named_of_ok hsignature _, hafter⟩
  setClassTag := by
    intro session cls tag hsteady hcls
    obtain ⟨after, hset, hafter⟩ := run_setTag serves tag hsteady hcls
    exact ⟨after, finish_named_of_ok hset _, hafter⟩

end Tooling

namespace Scripted

/-- A script that disturbs nothing and whose signatures are C strings. -/
structure IsCalm (script : Script) : Prop where
  rules : script.rules = []
  missing : script.missing = []
  signatures : ∀ bytes ∈ script.graph.signatures, 0 ∉ bytes

/-- The script once it has heard a call. -/
def hearing (script : Script) (function : ToolFunction) : Script :=
  { script with heard := function.name :: script.heard }

theorem IsCalm.hear {script : Script} (calm : IsCalm script) (function : ToolFunction) :
    script.hear function.name = (none, hearing script function) := by
  simp [Script.hear, calm.rules, hearing]

theorem IsCalm.hearing {script : Script} (calm : IsCalm script)
    (function : ToolFunction) : IsCalm (hearing script function) :=
  ⟨calm.rules, calm.missing, calm.signatures⟩

theorem graph_withSlot (script : Script) (object : Nat) (slot : Option Int) :
    (withSlot script object slot).graph = script.graph.withSlot object slot := by
  cases slot <;> rfl

theorem walkFrom_searches (patience made : Nat) (stack : List Nat) (script : Script) :
    (walkFrom (mannerOf none) patience made stack script).Searches Script.graph patience
      script.graph stack := by
  induction patience generalizing made stack script with
  | zero => exact .outOfPatience
  | succ patience ih =>
      cases stack with
      | nil => exact .returned rfl
      | cons object rest =>
          refine .reported (Multiset.cons_coe object rest).symm (fun slot => ?_) fun slot => ?_
          · rw [← graph_withSlot]
            exact ih (made + 1) (script.graph.references object ++ rest) _
          · rw [← graph_withSlot]
            exact ih (made + 1) rest _

theorem beforeNul_of_notMem {bytes : Text.Bytes} (hnul : 0 ∉ bytes) :
    Text.beforeNul bytes = bytes := by
  rw [Text.beforeNul, List.takeWhile_eq_self_iff]
  intro byte hbyte
  simpa using fun hzero : byte = 0 => hnul (hzero ▸ hbyte)

/-- A machine that no rule disturbs serves its heap. -/
theorem serves : machine.Serves Script.graph IsCalm where
  provides := by
    intro script function calm
    simp [machine, calm.missing]
  loadedClasses := by
    intro script calm
    refine ⟨List.range script.graph.signatures.size, hearing script .getLoadedClasses, ?_, .refl _,
      rfl, calm.hearing _⟩
    simp only [machine, loadedClasses, calm.hear, List.length_range]
  classSignature := by
    intro script cls calm hcls
    refine ⟨script.graph.signatures[cls], hearing script .getClassSignature, ?_, ?_, rfl,
      calm.hearing _⟩
    · simp only [machine, classSignature, calm.hear, hearing, Array.getElem?_eq_getElem hcls]
    · rw [beforeNul_of_notMem (calm.signatures _ (Array.getElem_mem hcls))]
      simp [hcls]
  setTag := by
    intro script cls tag calm hcls
    refine ⟨{ hearing script .setTag with graph := script.graph.setClassTag cls tag }, ?_, rfl,
      calm.rules, calm.missing, ?_⟩
    · simp only [machine, command, Command.function, calm.hear]
      exact if_pos hcls
    · rw [(Graph.alike_setClassTag script.graph cls tag).signatures]
      exact calm.signatures
  deallocate := by
    intro script buffer calm
    refine ⟨hearing script .deallocate, ?_, rfl, calm.hearing _⟩
    simp only [machine, deallocate, calm.hear]
  followReferences := by
    intro script calm
    refine ⟨_, ?_, walkFrom_searches _ 0 _ (hearing script .followReferences)⟩
    simp only [machine, followReferences, calm.hear]
    rfl

end Scripted

end Jvm

end ExhaustionGuard
