import ExhaustionGuard.Host.InMemory
import ExhaustionGuard.Proofs.Host.Exploration

/-! # The host in memory shows its graph

Whatever failures are planned, the host in memory acts on its graph alone; with
none planned it never fails.
-/

namespace ExhaustionGuard.InMemory

open Heap

theorem due?_of_no_plan {host : InMemory} (hplan : host.plan = []) (operation : HostOperation) :
    host.due? operation = none := by
  rw [due?, hplan]
  rfl

/-- An operation is noted, then it fails as planned or is answered. -/
theorem finish_perform {α : Type} (operation : HostOperation)
    (answer : InMemory → α × InMemory) (host : InMemory) :
    (perform operation answer).finish host =
      match (host.noteCall operation).due? operation with
      | some failure => (.error failure.fault, host.noteCall operation)
      | none =>
          (.ok (answer (host.noteCall operation)).1, (answer (host.noteCall operation)).2) := by
  rfl

theorem graph_finish_perform {α : Type} (operation : HostOperation)
    (answer : InMemory → α × InMemory) (hgraph : ∀ host, (answer host).2.graph = host.graph)
    (host : InMemory) : ((perform operation answer).finish host).2.graph = host.graph := by
  rw [finish_perform]
  split
  · rfl
  · exact hgraph _

theorem finish_perform_ok {α : Type} {operation : HostOperation}
    {answer : InMemory → α × InMemory} {host : InMemory} {value : α}
    (hok : ((perform operation answer).finish host).1 = .ok value) :
    (perform operation answer).finish host =
      (.ok value, (answer (host.noteCall operation)).2) ∧
      (answer (host.noteCall operation)).1 = value := by
  rw [finish_perform] at hok ⊢
  cases hdue : (host.noteCall operation).due? operation with
  | some failure => simp [hdue] at hok
  | none =>
      simp only [hdue, Except.ok.injEq] at hok
      simp [hok]

theorem graph_finish_perform_error {α : Type} {operation : HostOperation}
    {answer : InMemory → α × InMemory} {host : InMemory} {fault : HostFault}
    (hfailed : ((perform operation answer).finish host).1 = .error fault) :
    ((perform operation answer).finish host).2.graph = host.graph := by
  rw [finish_perform] at hfailed ⊢
  cases hdue : (host.noteCall operation).due? operation with
  | some failure => rfl
  | none => simp [hdue] at hfailed

theorem finish_perform_of_no_plan {α : Type} (operation : HostOperation)
    (answer : InMemory → α × InMemory) {host : InMemory} (hplan : host.plan = []) :
    (perform operation answer).finish host =
      (.ok (answer (host.noteCall operation)).1, (answer (host.noteCall operation)).2) := by
  have hnoted : (host.noteCall operation).plan = [] := hplan
  rw [finish_perform, due?_of_no_plan hnoted]

theorem length_loadedClasses {host after : InMemory} {classes : List ClassId}
    (hok : heap.loadedClasses.finish host = (.ok classes, after)) :
    classes.length = host.graph.signatures.size := by
  obtain ⟨_, hclasses⟩ := finish_perform_ok (congrArg Prod.fst hok)
  rw [← hclasses, List.length_range]
  rfl

/-- However it is planned to stop, a walk from a stack is a search from what is on the stack. -/
theorem walkFrom_follows (stop : Option (Nat × HostFault)) (patience made : Nat)
    (stack : List Nat) (host : InMemory) :
    (walkFrom stop patience made stack host).Follows InMemory.graph patience host.graph
      stack := by
  -- what the visitor answers changes the stack and the slots, so both are arbitrary here
  induction patience generalizing made stack host with
  | zero => exact .ended rfl (.inr rfl)
  | succ patience ih =>
      unfold walkFrom
      split
      next failure _ => exact .broken rfl failure.2
      next =>
        cases stack with
        | nil => exact .ended rfl (.inl rfl)
        | cons object rest =>
            refine .reached (Multiset.cons_coe object rest).symm fun response hresponse => ?_
            cases hanswer : response.answer with
            | descend => exact ih (made + 1) _ (host.respond object response)
            | prune => exact ih (made + 1) _ (host.respond object response)
            | panicked payload => exact absurd hanswer (hresponse payload)

theorem patience_gt (graph : Graph) : graph.referenceCount < graph.patience := by
  have hpow : graph.referenceCount + 1 ≤ (graph.referenceCount + 1) ^ (graph.objects.size + 2) :=
    Nat.le_self_pow (by omega) _
  have hmul := Nat.le_mul_of_pos_left ((graph.referenceCount + 1) ^ (graph.objects.size + 2))
    (Nat.add_one_pos graph.objects.size)
  rw [Graph.patience, Nat.pow_eq]
  omega

theorem followReferences_follows (host : InMemory) :
    (followReferences host).Follows InMemory.graph (host.graph.referenceCount + 1) host.graph
      host.graph.roots := by
  have hpatience : host.graph.referenceCount + 1 ≤ host.graph.patience + 1 :=
    Nat.succ_le_succ (patience_gt host.graph).le
  have hfollows : ∀ stop, (walkFrom stop (host.graph.patience + 1) 0 host.graph.roots
      (host.noteCall .followReferences)).Follows InMemory.graph _ host.graph host.graph.roots :=
    fun stop => (walkFrom_follows stop _ 0 _ _).mono hpatience
  simp only [followReferences]
  split
  · exact hfollows none
  · exact hfollows _

theorem setsOrFails : heap.SetsOrFails InMemory.graph := by
  intro host cls tag fault hfailed
  exact graph_finish_perform_error hfailed

theorem shows : heap.Shows InMemory.graph where
  loadedClasses := graph_finish_perform _ _ fun _ => rfl
  mem_loadedClasses := by
    intro host classes hok cls
    obtain ⟨_, hclasses⟩ := finish_perform_ok hok
    rw [← hclasses, List.mem_range]
    rfl
  classSignature := fun host cls => graph_finish_perform _ _ (fun _ => rfl) host
  signature_eq := by
    intro host cls signature _ hok
    exact (finish_perform_ok hok).2.symm
  setClassTag := by
    intro host cls tag hok
    have hfinish := (finish_perform_ok hok).1
    exact congrArg (fun finished => finished.2.graph) hfinish
  setClassTag_failed := fun tag fault hfailed => .inl (setsOrFails _ _ tag fault hfailed)
  followReferences := followReferences_follows

/-- A walk that is not planned to stop ends well. -/
theorem result_walkFrom {Memory : Type} (visit : Visitor Memory) (hvisit : NeverPanics visit)
    (patience made : Nat) (stack : List Nat) (host : InMemory) (memory : Memory) :
    ((walkFrom none patience made stack host).run visit memory).result = .ok () := by
  induction patience generalizing made stack host memory with
  | zero => rfl
  | succ patience ih =>
      cases stack with
      | nil => rfl
      | cons object rest =>
          simp only [walkFrom, Option.filter_none, Walk.run]
          cases hanswer : (visit (host.graph.reached object) memory).1.answer with
          | descend => exact ih _ _ _ _
          | prune => exact ih _ _ _ _
          | panicked payload => exact absurd hanswer (hvisit _ _ payload)

theorem reliable : heap.Reliable fun host => host.plan = [] := by
  constructor
  · intro host hplan
    exact ⟨_, _, finish_perform_of_no_plan _ _ hplan, hplan⟩
  · intro host cls hplan
    exact ⟨_, _, finish_perform_of_no_plan _ _ hplan, hplan⟩
  · intro host cls tag hplan
    exact ⟨_, finish_perform_of_no_plan .setClassTag
      (fun host => ((), { host with graph := host.graph.setClassTag cls tag })) hplan, hplan⟩
  · intro host hplan Memory visit hvisit memory
    have hnoted : (host.noteCall .followReferences).plan = [] := hplan
    simp only [heap, followReferences, due?_of_no_plan hnoted]
    exact result_walkFrom visit hvisit _ _ _ _ memory

end ExhaustionGuard.InMemory
