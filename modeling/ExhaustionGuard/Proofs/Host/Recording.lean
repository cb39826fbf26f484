import ExhaustionGuard.Heap.Capture
import ExhaustionGuard.Proofs.Host.Exploration

/-! # Recorded hosts

A recorded host does what another one does and writes it down: each call with
the fault that it ended with, and each answer of a visitor. What a computation
asks of a host, and in which order, is read off the record.
-/

namespace ExhaustionGuard

/-- A call of an operation of a host. -/
inductive HeapCall where
  | loadedClasses
  | classSignature (cls : ClassId)
  | setClassTag (cls : ClassId) (tag : Int)
  | followReferences
  deriving DecidableEq, Repr

/-- What a record holds: a call that has ended, with its fault if it failed, or a visit. -/
inductive RecordEntry where
  | called (call : HeapCall) (fault : Option HostFault)
  | visited (answer : Heap.Answer)
  deriving DecidableEq, Repr

namespace RecordEntry

/-- The calls of a record, in order. -/
def calls (record : List RecordEntry) : List HeapCall :=
  record.filterMap fun
    | .called call _ => some call
    | .visited _ => none

/-- The answers of the visitor, in order. -/
def answers (record : List RecordEntry) : List Heap.Answer :=
  record.filterMap fun
    | .called _ _ => none
    | .visited answer => some answer

/-- The classes whose tags were set, in order. -/
def taggedClasses (record : List RecordEntry) : List ClassId :=
  record.filterMap fun
    | .called (.setClassTag cls _) none => some cls
    | _ => none

@[simp]
theorem calls_append (first second : List RecordEntry) :
    calls (first ++ second) = calls first ++ calls second :=
  List.filterMap_append

end RecordEntry

/-- The fault of an operation that failed. -/
def faultOf {α : Type} : Except HostFault α → Option HostFault
  | .ok _ => none
  | .error fault => some fault

variable {σ α Memory : Type}

/-- An operation that writes down how it ended. -/
def HostM.recorded (call : HeapCall) (operation : HostM σ α) :
    HostM (σ × List RecordEntry) α :=
  HostM.ofFunction fun host =>
    let finished := operation.finish host.1
    (finished.1, finished.2, host.2 ++ [.called call (faultOf finished.1)])

/-- A walk that writes down each answer, and how it ended. -/
def Heap.Walk.recorded : List RecordEntry → Heap.Walk σ → Heap.Walk (σ × List RecordEntry)
  | record, .ended result host =>
      .ended result (host, record ++ [.called .followReferences (faultOf result)])
  | record, .reached object resume =>
      .reached object fun response =>
        recorded (record ++ [.visited response.answer]) (resume response)

/-- The host with a record of what it was asked. -/
def HeapHost.recorded (host : HeapHost σ) : HeapHost (σ × List RecordEntry) where
  loadedClasses := host.loadedClasses.recorded .loadedClasses
  classSignature := fun cls => (host.classSignature cls).recorded (.classSignature cls)
  setClassTag := fun cls tag => (host.setClassTag cls tag).recorded (.setClassTag cls tag)
  followReferences := fun state => (host.followReferences state.1).recorded state.2

theorem HostM.finish_recorded (call : HeapCall) (operation : HostM σ α) (state : σ)
    (record : List RecordEntry) :
    (operation.recorded call).finish (state, record) =
      ((operation.finish state).1, (operation.finish state).2,
        record ++ [.called call (faultOf (operation.finish state).1)]) := rfl

namespace Heap

/-- The answers that a walk gets from a visitor. -/
def Walk.answers (visit : Visitor Memory) : Walk σ → Memory → List Answer
  | .ended _ _, _ => []
  | .reached object resume, memory =>
      (visit object memory).1.answer ::
        (resume (visit object memory).1).answers visit (visit object memory).2

theorem Walk.run_recorded (visit : Visitor Memory) (walk : Walk σ) (record : List RecordEntry)
    (memory : Memory) :
    (walk.recorded record).run visit memory =
      ⟨(walk.run visit memory).result,
        ((walk.run visit memory).host,
          record ++ (walk.answers visit memory).map .visited ++
            [.called .followReferences (faultOf (walk.run visit memory).result)]),
        (walk.run visit memory).memory⟩ := by
  induction walk generalizing record memory with
  | ended result host => simp [recorded, run, answers]
  | reached object resume ih => simp [recorded, run, answers, ih]

/-! ## Tagging, call by call -/

/-- How a tagging of classes may go, with what it writes down: it stops at the first call that
fails, or when there is no tag left, or it goes on to the next class. -/
inductive Tags (host : HeapHost σ) :
    ClassTags → List ClassId → σ → List RecordEntry → Except HostFault ClassTags → σ → Prop where
  | done (tags : ClassTags) (state : σ) : Tags host tags [] state [] (.ok tags) state
  | unread {tags : ClassTags} {cls : ClassId} {rest : List ClassId} {state last : σ}
      {fault : HostFault} (hread : (host.classSignature cls).finish state = (.error fault, last)) :
      Tags host tags (cls :: rest) state [.called (.classSignature cls) (some fault)]
        (.error fault) last
  | exhausted {tags : ClassTags} {cls : ClassId} {rest : List ClassId} {state last : σ}
      {signature : String} {error : HostError} {left : ClassTags}
      (hread : (host.classSignature cls).finish state = (.ok signature, last))
      (hassign : tags.assign signature = (.error error, left)) :
      Tags host tags (cls :: rest) state [.called (.classSignature cls) none]
        (.error (.failed error)) last
  | unset {tags given : ClassTags} {cls : ClassId} {rest : List ClassId} {state read last : σ}
      {signature : String} {tag : Int} {fault : HostFault}
      (hread : (host.classSignature cls).finish state = (.ok signature, read))
      (hassign : tags.assign signature = (.ok tag, given))
      (hset : (host.setClassTag cls tag).finish read = (.error fault, last)) :
      Tags host tags (cls :: rest) state
        [.called (.classSignature cls) none, .called (.setClassTag cls tag) (some fault)]
        (.error fault) last
  | tagged {tags given : ClassTags} {cls : ClassId} {rest : List ClassId} {state read next last : σ}
      {signature : String} {tag : Int} {record : List RecordEntry}
      {result : Except HostFault ClassTags}
      (hread : (host.classSignature cls).finish state = (.ok signature, read))
      (hassign : tags.assign signature = (.ok tag, given))
      (hset : (host.setClassTag cls tag).finish read = (.ok (), next))
      (hrest : Tags host given rest next record result last) :
      Tags host tags (cls :: rest) state
        (.called (.classSignature cls) none :: .called (.setClassTag cls tag) none :: record)
        result last

/-- Recording a tagging changes nothing but the record. -/
theorem exists_tags (host : HeapHost σ) (tags : ClassTags) (classes : List ClassId) (state : σ)
    (before : List RecordEntry) :
    ∃ record result last, Tags host tags classes state record result last ∧
      (tagClasses host tags classes).finish state = (result, last) ∧
      (tagClasses host.recorded tags classes).finish (state, before) =
        (result, last, before ++ record) := by
  induction classes generalizing tags state before with
  | nil => exact ⟨[], .ok tags, state, .done tags state, rfl, by rw [List.append_nil]; rfl⟩
  | cons cls rest ih =>
      have hrecorded : (host.recorded.classSignature cls).finish (state, before) = _ :=
        HostM.finish_recorded (.classSignature cls) _ state before
      simp only [tagClasses, HostM.finish_bind, hrecorded]
      cases hread : (host.classSignature cls).finish state with
      | mk result read =>
          cases result with
          | error fault => exact ⟨_, _, _, .unread hread, rfl, rfl⟩
          | ok signature =>
              dsimp only
              rcases hassign : tags.assign signature with ⟨error | tag, given⟩
              case error => exact ⟨_, _, _, .exhausted hread hassign, rfl, rfl⟩
              case ok =>
                  have hrecorded : (host.recorded.setClassTag cls tag).finish
                      (read, before ++ [.called (.classSignature cls) none]) = _ :=
                    HostM.finish_recorded (.setClassTag cls tag) _ read _
                  simp only [faultOf, HostM.finish_bind, hrecorded]
                  cases hset : (host.setClassTag cls tag).finish read with
                  | mk result next =>
                      cases result with
                      | error fault =>
                          exact ⟨_, _, _, .unset hread hassign hset, rfl, by simp⟩
                      | ok _ =>
                          obtain ⟨record, result, last, htags, hplain, hlast⟩ := ih given next
                            (before ++ [.called (.classSignature cls) none] ++
                              [.called (.setClassTag cls tag) none])
                          exact ⟨_, result, last, .tagged hread hassign hset htags, hplain,
                            hlast.trans (by simp)⟩

theorem Tags.of_finish {host : HeapHost σ} {tags : ClassTags} {classes : List ClassId}
    {state last : σ} {result : Except HostFault ClassTags}
    (hfinish : (tagClasses host tags classes).finish state = (result, last)) :
    ∃ record, Tags host tags classes state record result last := by
  obtain ⟨record, ending, after, htags, hplain, -⟩ := exists_tags host tags classes state []
  obtain ⟨rfl, rfl⟩ := Prod.mk.inj (hplain.symm.trans hfinish)
  exact ⟨record, htags⟩

end Heap

end ExhaustionGuard
