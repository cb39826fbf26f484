import ExhaustionGuard.Jvm.Tooling
import ExhaustionGuard.Proofs.Heap.TagFrame

/-! # Walks with a visitor that may panic

The machine calls back for each object of a walk, and what it does next is its
own affair: it may go on although it was told to abort. The visitor is called for
the objects that are shown, and never again once it panicked. From then on
nothing is written to a slot, and the walk counts as aborted with whatever code
it ends.
-/

namespace ExhaustionGuard.Jvm

open Heap

variable {J : Machine} {Memory : Type}

/-- The object of a report, unless its slot or the data of the walk is missing. -/
def Report.shown? (report : Report) : Option Reached :=
  if report.hasUserData then
    report.slot.map fun slot => ⟨report.classTag, report.size, slot⟩
  else none

/-- A callback of a walk: what was reported, what the machine was told, and the slot behind it. -/
structure Callback where
  report : Report
  reaction : Reaction
  slot : Option Int

/-- The callbacks that a walk of a machine makes, with the code and the state that it ends with. -/
inductive CallbackWalk.Makes {State : Type} :
    CallbackWalk State → List Callback → ToolError → State → Prop
  | returned (code : ToolError) (state : State) : Makes (.returned code state) [] code state
  | reported {report : Report} {resume : Reaction → Option Int → CallbackWalk State}
      {reaction : Reaction} {slot : Option Int} {rest : List Callback} {code : ToolError}
      {state : State} : Makes (resume reaction slot) rest code state →
      Makes (.reported report resume) (⟨report, reaction, slot⟩ :: rest) code state

/-! ## What callbacks answer -/

/-- Callbacks in which the visitor did not panic, with its memory before and behind them. It is called
for each object that is shown, and says what the machine is told; the slot is as it left it. -/
inductive Heard (visit : Visitor Memory) : Memory → List Callback → Memory → Prop
  | nil (memory : Memory) : Heard visit memory [] memory
  | hidden {report : Report} {memory last : Memory} {rest : List Callback} :
      report.shown? = none → Heard visit memory rest last →
      Heard visit memory (⟨report, .visitObjects, report.slot⟩ :: rest) last
  | descended {report : Report} {object : Reached} {slot : Int} {memory next last : Memory}
      {rest : List Callback} : report.shown? = some object →
      visit object memory = (⟨.descend, slot⟩, next) → Heard visit next rest last →
      Heard visit memory (⟨report, .visitObjects, some slot⟩ :: rest) last
  | pruned {report : Report} {object : Reached} {slot : Int} {memory next last : Memory}
      {rest : List Callback} : report.shown? = some object →
      visit object memory = (⟨.prune, slot⟩, next) → Heard visit next rest last →
      Heard visit memory (⟨report, .skip, some slot⟩ :: rest) last

/-- A callback behind a panic: the slot is as it was, and the walk is to be aborted if an object is
shown. -/
structure Callback.IsIgnored (callback : Callback) : Prop where
  slot : callback.slot = callback.report.slot
  reaction : callback.reaction =
    if callback.report.shown?.isSome then .abort else .visitObjects

/-- The objects that callbacks show. -/
def shownObjects (callbacks : List Callback) : List Reached :=
  callbacks.filterMap fun callback => callback.report.shown?

/-- How a walk that nothing cut short ends: well just if the code says so. -/
def endingOf (code : ToolError) : Except HostFault Unit :=
  if code = .success then .ok () else .error (.failed (.tool "FollowReferences" code))

/-- What callbacks that end with a code come to: the objects that the visitor was called for, its memory
in the end, and the result. -/
inductive Outcome (visit : Visitor Memory) (memory : Memory) :
    List Callback → ToolError → List Reached → Memory → Except HostFault Unit → Prop
  /-- The visitor was called for every object that was shown, and the code decides. -/
  | heard {callbacks : List Callback} {code : ToolError} {last : Memory} :
      Heard visit memory callbacks last →
      Outcome visit memory callbacks code (shownObjects callbacks) last (endingOf code)
  /-- The visitor panicked and was not called again; the code does not matter. -/
  | panicked {before after : List Callback} {report : Report} {object : Reached} {slot : Int}
      {payload : Payload} {code : ToolError} {middle last : Memory} :
      Heard visit memory before middle → report.shown? = some object →
      visit object middle = (⟨.panicked payload, slot⟩, last) →
      (∀ callback ∈ after, callback.IsIgnored) →
      Outcome visit memory (before ++ ⟨report, .abort, some slot⟩ :: after) code
        (shownObjects before ++ [object]) last
        (.error (.failed (.walkAborted "heap visitor panicked")))

/-- One more callback in front, if it is heard in front of any others. -/
theorem Outcome.cons {visit : Visitor Memory} {memory next last : Memory} {callback : Callback}
    {rest : List Callback} {code : ToolError} {objects : List Reached}
    {result : Except HostFault Unit}
    (hheard : ∀ {rest last}, Heard visit next rest last → Heard visit memory (callback :: rest) last)
    (houtcome : Outcome visit next rest code objects last result) :
    Outcome visit memory (callback :: rest) code (shownObjects [callback] ++ objects) last result := by
  have hshown : ∀ callbacks, shownObjects (callback :: callbacks) =
      shownObjects [callback] ++ shownObjects callbacks := by
    intro callbacks
    rw [← List.singleton_append, shownObjects, List.filterMap_append]
    rfl
  cases houtcome with
  | heard hrest =>
      rw [← hshown]
      exact .heard (hheard hrest)
  | panicked hbefore hobject hpanic hafter =>
      rw [← List.append_assoc, ← hshown]
      exact .panicked (hheard hbefore) hobject hpanic hafter

namespace Tooling

theorem visible_of_hidden {report : Report} (hhidden : report.shown? = none) (session : Session J)
    (panicked : Bool) (reactions : List Reaction)
    (resume : Reaction → Option Int → CallbackWalk J.State) :
    visible session panicked reactions (.reported report resume) =
      visible session panicked (reactions ++ [.visitObjects]) (resume .visitObjects report.slot) := by
  obtain ⟨classTag, size, slot, hasUserData⟩ := report
  cases slot <;> cases hasUserData <;> simp_all [visible, Report.shown?]

theorem visible_of_shown {report : Report} {object : Reached} (hshown : report.shown? = some object)
    (session : Session J) (reactions : List Reaction)
    (resume : Reaction → Option Int → CallbackWalk J.State) :
    visible session false reactions (.reported report resume) =
      .reached object fun response =>
        visible session (isPanic response.answer) (reactions ++ [reactionTo response.answer])
          (resume (reactionTo response.answer) (some response.slot)) := by
  obtain ⟨classTag, size, slot, hasUserData⟩ := report
  cases slot <;> cases hasUserData <;> simp_all [visible, Report.shown?]

theorem visible_of_panicked {report : Report} (hshown : report.shown?.isSome = true)
    (session : Session J) (reactions : List Reaction)
    (resume : Reaction → Option Int → CallbackWalk J.State) :
    visible session true reactions (.reported report resume) =
      visible session true (reactions ++ [.abort]) (resume .abort report.slot) := by
  obtain ⟨classTag, size, slot, hasUserData⟩ := report
  cases slot <;> cases hasUserData <;> simp_all [visible, Report.shown?]

/-- The session after a walk that ended in a state. -/
def closing (session : Session J) (state : J.State) (reactions : List Reaction) : Session J :=
  let next : Session J := { session with state := state }
  next.note (.walked reactions)

/-- Behind a panic the machine may call back as often as it likes: the walk is over. -/
theorem visible_after_panic (session : Session J) (reactions : List Reaction)
    (walk : CallbackWalk J.State) :
    ∃ callbacks code state, walk.Makes callbacks code state ∧
      (∀ callback ∈ callbacks, callback.IsIgnored) ∧
      visible session true reactions walk =
        .ended (.error (.failed (.walkAborted "heap visitor panicked")))
          (closing session state (reactions ++ callbacks.map Callback.reaction)) := by
  induction walk generalizing reactions with
  | returned code state =>
      refine ⟨[], code, state, .returned code state, nofun, ?_⟩
      rw [List.map_nil, List.append_nil]
      rfl
  | reported report resume ih =>
      -- what the callback answers, and whether an object is shown or not
      obtain ⟨reaction, hreaction, hvisible⟩ : ∃ reaction,
          reaction = (if report.shown?.isSome then Reaction.abort else .visitObjects) ∧
          visible session true reactions (.reported report resume) =
            visible session true (reactions ++ [reaction]) (resume reaction report.slot) := by
        cases hshown : report.shown? with
        | none => exact ⟨_, rfl, visible_of_hidden hshown session true reactions resume⟩
        | some object =>
            exact ⟨_, rfl, visible_of_panicked (by rw [hshown]; rfl) session reactions resume⟩
      obtain ⟨callbacks, code, state, hmakes, hignored, hended⟩ :=
        ih reaction report.slot (reactions ++ [reaction])
      refine ⟨⟨report, reaction, report.slot⟩ :: callbacks, code, state, .reported hmakes, ?_, ?_⟩
      · exact List.forall_mem_cons.mpr ⟨⟨rfl, hreaction⟩, hignored⟩
      · rw [hvisible, hended, List.append_assoc]
        rfl

/-- A visitor that has not panicked so far is called until it does. -/
theorem outcome_visible (visit : Visitor Memory) (session : Session J) (reactions : List Reaction)
    (walk : CallbackWalk J.State) (memory : Memory) :
    let seen := visible session false reactions walk
    ∃ callbacks code state, walk.Makes callbacks code state ∧
      Outcome visit memory callbacks code (seen.handed visit memory)
        (seen.run visit memory).memory (seen.run visit memory).result ∧
      (seen.run visit memory).host =
        closing session state (reactions ++ callbacks.map Callback.reaction) := by
  induction walk generalizing reactions memory with
  | returned code state =>
      refine ⟨[], code, state, .returned code state, .heard (.nil memory), ?_⟩
      rw [List.map_nil, List.append_nil]
      rfl
  | reported report resume ih =>
      dsimp only at ih ⊢
      cases hshown : report.shown? with
      | none =>
          obtain ⟨callbacks, code, state, hmakes, houtcome, hhost⟩ :=
            ih .visitObjects report.slot (reactions ++ [.visitObjects]) memory
          rw [visible_of_hidden hshown]
          have hnone : shownObjects [⟨report, .visitObjects, report.slot⟩] = [] :=
            List.filterMap_cons_none hshown
          have hcons := houtcome.cons (.hidden hshown)
          refine ⟨⟨report, .visitObjects, report.slot⟩ :: callbacks, code, state,
            .reported hmakes, ?_, ?_⟩
          · rwa [hnone, List.nil_append] at hcons
          · rw [hhost, List.append_assoc]
            rfl
      | some object =>
          rw [visible_of_shown hshown]
          obtain ⟨⟨⟨answer, slot⟩, next⟩, hvisit⟩ : ∃ step, visit object memory = step := ⟨_, rfl⟩
          simp only [Walk.handed, Walk.run, hvisit]
          have hobject : ∀ reaction slot, shownObjects [⟨report, reaction, slot⟩] = [object] :=
            fun _ _ => List.filterMap_cons_some hshown
          cases answer with
          | descend =>
              obtain ⟨callbacks, code, state, hmakes, houtcome, hhost⟩ :=
                ih .visitObjects (some slot) (reactions ++ [.visitObjects]) next
              have hcons := houtcome.cons (.descended hshown hvisit)
              rw [hobject] at hcons
              rw [List.append_assoc] at hhost
              exact ⟨_, code, state, .reported hmakes, hcons, hhost⟩
          | prune =>
              obtain ⟨callbacks, code, state, hmakes, houtcome, hhost⟩ :=
                ih .skip (some slot) (reactions ++ [.skip]) next
              have hcons := houtcome.cons (.pruned hshown hvisit)
              rw [hobject] at hcons
              rw [List.append_assoc] at hhost
              exact ⟨_, code, state, .reported hmakes, hcons, hhost⟩
          | panicked payload =>
              obtain ⟨callbacks, code, state, hmakes, hignored, hended⟩ :=
                visible_after_panic session (reactions ++ [.abort]) (resume .abort (some slot))
              have houtcome : Outcome visit memory ([] ++ ⟨report, .abort, some slot⟩ :: callbacks)
                  code (shownObjects [] ++ [object]) next _ :=
                .panicked (.nil memory) hshown hvisit hignored
              rw [List.append_assoc] at hended
              simp only [isPanic, reactionTo, hended]
              exact ⟨_, code, state, .reported hmakes, houtcome, rfl⟩

/-- What a walk over the tool interface does with a visitor. A function that is missing is never called,
and a walk that is refused calls nobody back. In a walk that begins the visitor is called for
the objects that are shown until it panics, if it does, and the panic outweighs any code. -/
theorem followReferences_outcome (session : Session J) (visit : Visitor Memory) (memory : Memory) :
    let walk := followReferences session
    let called := session.note (.tool .followReferences)
    match J.provides .followReferences session.state, J.followReferences session.state with
    | false, _ =>
        walk.handed visit memory = [] ∧ walk.run visit memory =
          ⟨.error (.failed (.tool "FollowReferences" .notAvailable)), session, memory⟩
    | true, .refused code state =>
        walk.handed visit memory = [] ∧
          walk.run visit memory = ⟨endingOf code, { called with state := state }, memory⟩
    | true, .begins calls =>
        ∃ callbacks code state, calls.Makes callbacks code state ∧
          Outcome visit memory callbacks code (walk.handed visit memory)
            (walk.run visit memory).memory (walk.run visit memory).result ∧
          (walk.run visit memory).host =
            closing called state (callbacks.map Callback.reaction) := by
  dsimp only
  unfold followReferences
  cases J.provides .followReferences session.state with
  | false => exact ⟨rfl, rfl⟩
  | true =>
      cases hreply : J.followReferences session.state with
      | refused code state => exact ⟨rfl, rfl⟩
      | begins calls => exact outcome_visible visit _ [] calls memory

/-- The machine ignores that it is to abort, and ends well: the walk is aborted all the same. -/
example (session : Session J) (state : J.State) :
    let stubborn : CallbackWalk J.State := .reported ⟨7, 16, some 0, true⟩ fun _ _ =>
      .reported ⟨7, 24, some 5, true⟩ fun _ _ => .returned .success state
    let walk := visible session false [] stubborn
    let visit : Visitor Nat := fun _ calls => (⟨.panicked .noText, 1⟩, calls + 1)
    walk.handed visit 0 = [⟨7, 16, 0⟩] ∧ walk.run visit 0 =
      ⟨.error (.failed (.walkAborted "heap visitor panicked")),
        closing session state [.abort, .abort], 1⟩ :=
  ⟨rfl, rfl⟩

end Tooling

end ExhaustionGuard.Jvm
