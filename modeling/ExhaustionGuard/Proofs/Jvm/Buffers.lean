import ExhaustionGuard.Proofs.Heap.Exactness
import ExhaustionGuard.Proofs.Jvm.Exchanges
import ExhaustionGuard.Proofs.Jvm.HeapService
import ExhaustionGuard.Proofs.Jvm.VisitorPanic

/-! # Buffers that are handed back

The list of the loaded classes and each signature come in a buffer of the machine.
Wherever a capture breaks off, every buffer that was handed out is handed back once,
and nothing else is. The machine may answer as it likes, and it may refuse to take a
buffer, but it has to have the function that takes one.
-/

namespace ExhaustionGuard.Jvm

open Heap

variable {J : Machine} {α β : Type}

namespace Tooling

/-- Either a function is missing, or it is used. -/
theorem of_whenProvided (good : Except ToolError α × Session J → Prop) {function : ToolFunction}
    {use : ToolM J α} {session : Session J} (hmissing : good (.error .notAvailable, session))
    (huse : good (use.run session)) : good ((whenProvided function use).run session) := by
  cases hfunction : J.provides function session.state with
  | false =>
      have hrun : (whenProvided function use).run session = (.error .notAvailable, session) :=
        if_neg (Bool.eq_false_iff.mp hfunction)
      rwa [hrun]
  | true => rwa [run_whenProvided hfunction]

theorem run_copy (held : Held α) (session : Session J) :
    (copy held).run session = (.ok held.contents, session.note (.read held.buffer)) := rfl

theorem state_bind_of_error {first : ToolM J α} {session after : Session J} {error : ToolError}
    (hfirst : first.run session = (.error error, after)) (next : α → ToolM J β) :
    ((first >>= next).run session).2 = after := by
  change ((ExceptT.bindCont next (first.run session).1).run (first.run session).2).2 = _
  rw [hfirst]
  rfl

/-- What is done with a value does not matter if it is only handed on. -/
theorem state_bind_pure (use : ToolM J α) (read : α → β) (session : Session J) :
    ((use >>= fun value => pure (read value)).run session).2 = (use.run session).2 := by
  let next : α → ToolM J β := fun value => pure (read value)
  change ((ExceptT.bindCont next (use.run session).1).run (use.run session).2).2 = _
  cases (use.run session).1 <;> rfl

theorem state_named (operation : String) (use : ToolM J α) (session : Session J) :
    ((named operation use).finish session).2 = (use.run session).2 := by
  cases huse : use.run session with
  | mk result after =>
      have hrun : StateT.run use.run session = pure (result, after) := huse
      rw [HostM.finish, named, ExceptT.run_mk, StateT.run_bind, hrun]
      cases result <;> rfl

theorem state_deallocate (hprovides : ∀ state, J.provides .deallocate state = true)
    (buffer : BufferId) (session : Session J) :
    ((deallocate (some buffer)).run session).2 = session.afterReturn buffer := by
  rw [deallocate, run_whenProvided (hprovides _)]
  rfl

/-- How a call goes that may be answered with a buffer: the buffer is held, if one came. -/
inductive Received {γ : Type} (call : ToolCall) (held? : γ → Option BufferId)
    (session : Session J) : Except ToolError γ × Session J → Prop
  | missing : Received call held? session (.error .notAvailable, session)
  | nothing {result : Except ToolError γ} (hnone : (J.ask call session.state).1 = false)
      (hresult : ∀ value, result = .ok value → held? value = none) :
      Received call held? session (result, session.afterCall call)
  | buffer {value : γ} (hsome : (J.ask call session.state).1 = true)
      (hvalue : held? value = some session.buffers.length) :
      Received call held? session (.ok value, (session.afterCall call).addBuffer)

/-- A buffer is held just if the machine answers with one. -/
theorem received_receive {call : ToolCall} {code : ToolError} {contents : Option α}
    {session : Session J} {next : J.State}
    (hask : J.ask call session.state = (code == .success && contents.isSome, next)) :
    Received call (Option.map Held.buffer) session
      ((receive call code contents).run { session with state := next }) := by
  have hlends := congrArg Prod.fst hask
  obtain rfl := (congrArg Prod.snd hask).symm
  rw [receive]
  by_cases hcode : code = .success
  · simp only [ExceptT.run_mk, if_pos hcode]
    cases contents with
    | none => exact .nothing (hlends.trans (Bool.and_false _)) fun _ hvalue => by cases hvalue; rfl
    | some contents => exact .buffer (by rw [hlends, hcode]; rfl) rfl
  · simp only [ExceptT.run_mk, if_neg hcode]
    rw [beq_false_of_ne hcode] at hlends
    exact .nothing hlends nofun

theorem Received.map {γ δ : Type} {call : ToolCall} {held? : γ → Option BufferId}
    {later? : δ → Option BufferId} {use : ToolM J γ} {session between : Session J}
    (hreceived : Received call held? session (use.run between)) {change : γ → δ}
    (hchange : ∀ value, later? (change value) = held? value) :
    Received call later? session ((use.map change).run between) := by
  have hrun : (use.map change).run between =
      ((use.run between).1.map change, (use.run between).2) := by
    change (change <$> use).run between = _
    rw [ExceptT.run_map]
    rfl
  rw [hrun]
  generalize use.run between = answer at hreceived
  cases hreceived with
  | missing => exact .missing
  | @nothing result hnone hresult =>
      refine .nothing hnone fun value hvalue => ?_
      cases result with
      | error error => exact nomatch hvalue
      | ok received =>
          obtain rfl := Except.ok.inj hvalue
          exact (hchange received).trans (hresult received rfl)
  | buffer hsome hvalue => exact .buffer hsome ((hchange _).trans hvalue)

theorem received_listClasses (session : Session J) :
    Received .getLoadedClasses (fun answer => answer.2.map Held.buffer) session
      (listClasses.run session) :=
  of_whenProvided _ .missing ((received_receive rfl).map fun _ => rfl)

theorem received_signatureBuffer (cls : ClassId) (session : Session J) :
    Received (.getClassSignature cls) (Option.map Held.buffer) session
      ((signatureBuffer cls).run session) :=
  of_whenProvided _ .missing (received_receive rfl)

/-- Nothing else is asked until a buffer that came was handed back. -/
theorem Received.balanced_bind {γ : Type} {call : ToolCall} {held? : γ → Option BufferId}
    {first : ToolM J γ} {next : γ → ToolM J β} {session : Session J}
    (hfirst : Received call held? session (first.run session)) (hcall : call ≠ .followReferences)
    (hfree : ∀ value after, held? value = none → ((next value).run after).2 = after)
    (hheld : ∀ value buffer after, held? value = some buffer → ∃ copied,
      ((next value).run after).2 = (after.afterCopy buffer copied).afterReturn buffer) :
    Balanced session ((first >>= next).run session).2 := by
  cases hrun : first.run session with
  | mk result between =>
      rw [hrun] at hfirst
      cases hfirst with
      | missing =>
          rw [state_bind_of_error hrun]
          exact .refl session
      | nothing hnone hresult =>
          refine (balanced_call hcall hnone).trans ?_
          cases result with
          | error error =>
              rw [state_bind_of_error hrun]
              exact .refl _
          | ok value =>
              rw [run_bind_of_ok hrun, hfree value _ (hresult value rfl)]
              exact .refl _
      | @buffer value hsome hvalue =>
          obtain ⟨copied, hreturned⟩ := hheld value _ (session.afterCall call).addBuffer hvalue
          rw [run_bind_of_ok hrun, hreturned]
          exact balanced_exchange hsome copied

/-- The machine may say that there are classes or none, with a buffer or without. -/
theorem balanced_loadedClasses (hprovides : ∀ state, J.provides .deallocate state = true)
    (session : Session J) : Balanced session (loadedClasses.run session).2 := by
  refine (received_listClasses session).balanced_bind (by decide) ?_ ?_
  · rintro ⟨count, held⟩ after hnone
    obtain rfl := Option.map_eq_none_iff.mp hnone
    rfl
  · rintro ⟨count, held⟩ buffer after hheld
    obtain ⟨held, rfl, rfl⟩ := Option.map_eq_some_iff.mp hheld
    dsimp only
    by_cases hcount : count ≤ 0
    · refine ⟨false, ?_⟩
      rw [if_pos hcount, state_bind_pure, state_deallocate hprovides]
      rfl
    · refine ⟨true, ?_⟩
      rw [if_neg hcount, run_bind_of_ok (run_copy held after), state_bind_pure,
        state_deallocate hprovides]
      rfl

theorem balanced_classSignature (hprovides : ∀ state, J.provides .deallocate state = true)
    (cls : ClassId) (session : Session J) :
    Balanced session ((classSignature cls).run session).2 := by
  refine (received_signatureBuffer cls session).balanced_bind (by rintro ⟨⟩) ?_ ?_
  · rintro held after hnone
    obtain rfl := Option.map_eq_none_iff.mp hnone
    rfl
  · rintro held buffer after hheld
    obtain ⟨held, rfl, rfl⟩ := Option.map_eq_some_iff.mp hheld
    refine ⟨true, ?_⟩
    dsimp only
    rw [run_bind_of_ok (run_copy held after), state_bind_pure, state_deallocate hprovides]
    rfl

theorem balanced_command (command : Command) (session : Session J) :
    Balanced session ((Tooling.command command).run session).2 := by
  have hcall : ToolCall.command command ≠ .followReferences := by rintro ⟨⟩
  exact of_whenProvided (fun answer => Balanced session answer.2) (.refl session)
    (balanced_call hcall rfl)

/-! ## Captures -/

/-- However many classes there are, and wherever their tagging breaks off. -/
theorem balanced_tagClasses (hprovides : ∀ state, J.provides .deallocate state = true)
    (tags : ClassTags) (classes : List ClassId) (session : Session J) :
    Balanced session ((tagClasses Tooling.heap tags classes).finish session).2 := by
  induction classes generalizing tags session with
  | nil => exact .refl session
  | cons cls rest ih =>
      rw [tagClasses]
      refine HostM.finish_bind_state (Balanced session) ?_ fun signature read _ hread => ?_
      · rw [Tooling.heap, state_named]
        exact balanced_classSignature hprovides cls session
      rcases tags.assign signature with ⟨error | tag, given⟩
      case error => exact hread
      case ok =>
          refine HostM.finish_bind_state (Balanced session) ?_ fun _ set _ hset => ?_
          · rw [Tooling.heap, state_named]
            exact hread.trans (balanced_command _ _)
          · exact hset.trans (ih _ _)

theorem balanced_tagLoadedClasses (hprovides : ∀ state, J.provides .deallocate state = true)
    (session : Session J) :
    Balanced session ((tagLoadedClasses Tooling.heap).finish session).2 := by
  refine HostM.finish_bind_state (Balanced session) ?_ fun classes listed _ hlisted => ?_
  · rw [Tooling.heap, state_named]
    exact balanced_loadedClasses hprovides session
  · exact hlisted.trans (balanced_tagClasses hprovides _ _ _)

/-- A walk leaves the buffers alone. -/
theorem exists_walked {Memory : Type} (visit : Visitor Memory) (memory : Memory)
    (session : Session J) :
    let after := ((followReferences session).run visit memory).host
    ∃ walked, after.trace = session.trace ++ walked ∧ after.buffers = session.buffers ∧
      ∀ event ∈ walked, event.IsOfWalk := by
  rw [followReferences]
  cases J.provides .followReferences session.state with
  | false => exact ⟨[], (List.append_nil _).symm, rfl, List.forall_mem_nil _⟩
  | true =>
      rw [if_pos rfl]
      cases J.followReferences session.state with
      | refused code state => exact ⟨_, rfl, rfl, List.forall_mem_singleton.mpr trivial⟩
      | begins walk =>
          obtain ⟨callbacks, code, state, -, -, hhost⟩ :=
            outcome_visible visit (session.note (.tool .followReferences)) [] walk memory
          refine ⟨[.tool .followReferences, .walked (callbacks.map Callback.reaction)], ?_, ?_, ?_⟩
          · rw [hhost]
            exact List.append_assoc _ _ _
          · rw [hhost]
            rfl
          · exact List.forall_mem_cons.mpr ⟨trivial, List.forall_mem_singleton.mpr trivial⟩

/-- Whatever the machine answers, and wherever the capture breaks off. The buffers are those that
came with the answers to what was asked before the walk. -/
theorem capture_hands_back (hprovides : ∀ state, J.provides .deallocate state = true)
    (epoch : Nat) (session : Session J) :
    ∃ asked walked,
      HandsBack session ((capture Tooling.heap epoch).finish session).2 (asked ++ walked)
        (J.lent session.state asked) ∧
      (∀ event ∈ asked, ¬ event.IsOfWalk) ∧ ∀ event ∈ walked, event.IsOfWalk := by
  have htagging := balanced_tagLoadedClasses hprovides session
  rw [capture, HostM.finish_bind]
  cases htagged : (tagLoadedClasses Tooling.heap).finish session with
  | mk result tagged =>
      rw [htagged] at htagging
      obtain ⟨asked, hasked, -, hunwalked⟩ := htagging
      cases result with
      | error fault =>
          exact ⟨asked, [], by rwa [List.append_nil], hunwalked, List.forall_mem_nil _⟩
      | ok tags =>
          obtain ⟨walked, htrace, hbuffers, hwalk⟩ :=
            exists_walked (countingVisitor tags (stampOf epoch)) .empty tagged
          have hwalked := HandsBack.of_quiet htrace hbuffers fun event hevent =>
            (hwalk event hevent).isQuiet
          exact ⟨asked, walked, hasked.trans hwalked, hunwalked, hwalk⟩

/-- A machine that lists three classes and knows the signatures of two of them. It does not take
the third buffer that it is handed. Its state is the number of questions it was asked. -/
def refusesBuffer : Machine where
  State := Nat
  Object := Unit
  Method := Unit
  answer call asked := match call with
    | .findClass _ | .newString _ => (⟨none, false⟩, asked)
    | .methodId .. | .staticMethodId .. => (⟨none, false⟩, asked)
    | .callObject .. | .callStaticObject .. => (⟨none, false⟩, asked)
    | .callInt .. | .callLong .. => (⟨0, false⟩, asked)
    | .callVoid .. => (⟨(), false⟩, asked)
    | .stringChars _ => (⟨none, false⟩, asked)
  getEnvironment asked := ((0, true), asked + 1)
  provides _ _ := true
  command _ asked := (.success, asked + 1)
  deallocate buffer asked := (if buffer = 2 then .notAvailable else .success, asked + 1)
  loadedClasses asked := (⟨.success, 3, some [0, 1, 2]⟩, asked + 1)
  classSignature cls asked := (⟨.success, if cls < 2 then some [0x4C] else none⟩, asked + 1)
  followReferences asked := .refused .notAvailable asked

/-- The session with that machine before anything was asked. -/
def refusesBufferStart : Session refusesBuffer := .start (0 : Nat)

theorem capture_hands_back_though_refused :
    (∀ state, refusesBuffer.provides .deallocate state = true) ∧
      ((capture Tooling.heap 1).finish refusesBufferStart).2.buffers =
        [⟨1, true⟩, ⟨1, true⟩, ⟨1, false⟩] ∧
      ∃ asked walked,
        HandsBack refusesBufferStart ((capture Tooling.heap 1).finish refusesBufferStart).2
          (asked ++ walked) (refusesBuffer.lent refusesBufferStart.state asked) ∧
        (∀ event ∈ asked, ¬ event.IsOfWalk) ∧ ∀ event ∈ walked, event.IsOfWalk :=
  ⟨fun _ => rfl, by decide +kernel, capture_hands_back (fun _ => rfl) 1 refusesBufferStart⟩

end Tooling

end ExhaustionGuard.Jvm
