import ExhaustionGuard.Proofs.Jvm.Ledger

/-! # Exchanges over the tool interface

A call of the tool interface may be answered with a buffer. The machine is then
asked nothing else until the buffer was handed back, so what is handed out and what
is handed back agree behind every exchange, and no buffer is read once it was
handed back.
-/

namespace ExhaustionGuard.Jvm

variable {J : Machine}

/-! ## What is handed out and back -/

namespace SessionEvent

variable {Object Method : Type}

/-- The buffer that an event hands out. -/
def allocated? : SessionEvent Object Method → Option BufferId
  | .allocated buffer => some buffer
  | _ => none

/-- The buffer that an event reads. -/
def read? : SessionEvent Object Method → Option BufferId
  | .read buffer => some buffer
  | _ => none

/-- The buffer that an event hands back. -/
def handedBack? : SessionEvent Object Method → Option BufferId
  | .handedBack buffer => some buffer
  | _ => none

/-- No buffer has to do with the event. -/
def IsQuiet (event : SessionEvent Object Method) : Prop :=
  event.allocated? = none ∧ event.read? = none ∧ event.handedBack? = none

/-- The event belongs to a walk. -/
def IsOfWalk : SessionEvent Object Method → Prop
  | .tool .followReferences | .walked _ => True
  | _ => False

theorem IsOfWalk.isQuiet {event : SessionEvent Object Method} (hwalk : event.IsOfWalk) :
    event.IsQuiet := by
  cases event with
  | tool | walked => exact ⟨rfl, rfl, rfl⟩
  | _ => exact hwalk.elim

end SessionEvent

namespace Machine

/-- Whether the answer to a call comes with a buffer, and the state behind the answer. The state
behind a walk depends on its callbacks and is not told here. -/
def ask (J : Machine) (call : ToolCall) (state : J.State) : Bool × J.State :=
  match call with
  | .getEnvironment => (false, (J.getEnvironment state).2)
  | .command command => (false, (J.command command state).2)
  | .getLoadedClasses =>
      let (reply, next) := J.loadedClasses state
      (reply.code == .success && reply.buffer.isSome, next)
  | .getClassSignature cls =>
      let (reply, next) := J.classSignature cls state
      (reply.code == .success && reply.buffer.isSome, next)
  | .followReferences => (false, state)

/-- Whether an event is a call that is answered with a buffer. -/
def lends (J : Machine) (state : J.State) : SessionEvent J.Object J.Method → Bool
  | .tool call => (J.ask call state).1
  | _ => false

/-- The state of the machine behind an event. -/
def attend (J : Machine) (state : J.State) : SessionEvent J.Object J.Method → J.State
  | .tool call => (J.ask call state).2
  | .handedBack buffer => (J.deallocate buffer state).2
  | event => J.hear state event

def attendAll (J : Machine) (state : J.State) (made : List (SessionEvent J.Object J.Method)) :
    J.State :=
  made.foldl J.attend state

/-- How many calls among some events are answered with a buffer. -/
def lent (J : Machine) : J.State → List (SessionEvent J.Object J.Method) → Nat
  | _, [] => 0
  | state, event :: rest => (J.lends state event).toNat + J.lent (J.attend state event) rest

theorem attendAll_append (state : J.State)
    (first second : List (SessionEvent J.Object J.Method)) :
    J.attendAll state (first ++ second) = J.attendAll (J.attendAll state first) second :=
  List.foldl_append

theorem lent_append (state : J.State) (first second : List (SessionEvent J.Object J.Method)) :
    J.lent state (first ++ second) =
      J.lent state first + J.lent (J.attendAll state first) second := by
  induction first generalizing state with
  | nil => exact (Nat.zero_add _).symm
  | cons event rest ih =>
      rw [List.cons_append, lent, ih, lent, Nat.add_assoc]
      rfl

end Machine

/-- All buffers that were handed out between two sessions were handed back, as many as were
counted. -/
structure HandsBack (before after : Session J) (made : List (SessionEvent J.Object J.Method))
    (count : Nat) : Prop where
  trace : after.trace = before.trace ++ made
  allocated : made.filterMap SessionEvent.allocated? = List.range' before.buffers.length count
  /-- Each of them was handed back once, and nothing else was. -/
  handedBack : made.filterMap SessionEvent.handedBack? = List.range' before.buffers.length count
  read : (made.filterMap SessionEvent.read?).Sublist (List.range' before.buffers.length count)
  /-- No buffer was read after it was handed back. -/
  unread : made.Pairwise fun earlier later =>
    ∀ buffer, earlier = .handedBack buffer → later ≠ .read buffer
  buffers : ∃ returned, after.buffers = before.buffers ++ returned ∧ returned.length = count ∧
    ∀ entry ∈ returned, entry.returns = 1

namespace HandsBack

variable {before between after : Session J}
  {made first second : List (SessionEvent J.Object J.Method)} {count more : Nat}

theorem length_buffers (hmade : HandsBack before after made count) :
    after.buffers.length = before.buffers.length + count := by
  obtain ⟨returned, hbuffers, hlength, -⟩ := hmade.buffers
  rw [hbuffers, List.length_append, hlength]

theorem of_quiet (htrace : after.trace = before.trace ++ made)
    (hbuffers : after.buffers = before.buffers) (hquiet : ∀ event ∈ made, event.IsQuiet) :
    HandsBack before after made 0 where
  trace := htrace
  allocated := List.filterMap_eq_nil_iff.mpr fun event hevent => (hquiet event hevent).1
  handedBack := List.filterMap_eq_nil_iff.mpr fun event hevent => (hquiet event hevent).2.2
  read := by
    rw [List.filterMap_eq_nil_iff.mpr fun event hevent => (hquiet event hevent).2.1]
    exact List.nil_sublist _
  unread := by
    refine List.pairwise_of_forall_mem_list fun earlier hearlier later _ buffer hback => ?_
    have hnone := (hquiet earlier hearlier).2.2
    rw [hback] at hnone
    exact nomatch hnone
  buffers := ⟨[], by rw [hbuffers, List.append_nil], rfl, List.forall_mem_nil _⟩

/-- What was handed back before is not read later, since later reads are of later buffers. -/
theorem trans (hfirst : HandsBack before between first count)
    (hsecond : HandsBack between after second more) :
    HandsBack before after (first ++ second) (count + more) := by
  have hlength := hfirst.length_buffers
  refine ⟨?_, ?_, ?_, ?_, ?_, ?_⟩
  · rw [hsecond.trace, hfirst.trace, List.append_assoc]
  · rw [List.filterMap_append, hfirst.allocated, hsecond.allocated, hlength,
      List.range'_append_1]
  · rw [List.filterMap_append, hfirst.handedBack, hsecond.handedBack, hlength,
      List.range'_append_1]
  · rw [List.filterMap_append, ← List.range'_append_1, ← hlength]
    exact hfirst.read.append hsecond.read
  · refine List.pairwise_append.mpr ⟨hfirst.unread, hsecond.unread, ?_⟩
    rintro earlier hearlier later hlater buffer rfl rfl
    have hback : buffer ∈ first.filterMap SessionEvent.handedBack? :=
      List.mem_filterMap.mpr ⟨_, hearlier, rfl⟩
    have hread : buffer ∈ second.filterMap SessionEvent.read? :=
      List.mem_filterMap.mpr ⟨_, hlater, rfl⟩
    rw [hfirst.handedBack, List.mem_range'_1] at hback
    have hlate := (List.mem_range'_1.mp (hsecond.read.subset hread)).1
    omega
  · obtain ⟨early, hearly, rfl, honce⟩ := hfirst.buffers
    obtain ⟨late, hlate, rfl, hagain⟩ := hsecond.buffers
    refine ⟨early ++ late, ?_, List.length_append, List.forall_mem_append.mpr ⟨honce, hagain⟩⟩
    rw [hlate, hearly, List.append_assoc]

end HandsBack

/-- No walk was begun, and all buffers that the machine handed out were handed back. -/
def Balanced (before after : Session J) : Prop :=
  ∃ made, HandsBack before after made (J.lent before.state made) ∧
    after.state = J.attendAll before.state made ∧ ∀ event ∈ made, ¬ event.IsOfWalk

namespace Balanced

variable {before between after : Session J}

theorem refl (session : Session J) : Balanced session session :=
  ⟨[], .of_quiet (List.append_nil _).symm rfl (List.forall_mem_nil _), rfl,
    List.forall_mem_nil _⟩

theorem trans (hfirst : Balanced before between) (hsecond : Balanced between after) :
    Balanced before after := by
  obtain ⟨first, hfirst, hbetween, hearly⟩ := hfirst
  obtain ⟨second, hsecond, hafter, hlate⟩ := hsecond
  refine ⟨first ++ second, ?_, ?_, List.forall_mem_append.mpr ⟨hearly, hlate⟩⟩
  · rw [Machine.lent_append, ← hbetween]
    exact hfirst.trans hsecond
  · rw [hafter, hbetween, Machine.attendAll_append]

end Balanced

/-! ## Single exchanges -/

namespace Session

/-- The session after a call of the tool interface. -/
def afterCall (session : Session J) (call : ToolCall) : Session J :=
  let next : Session J := { session with state := (J.ask call session.state).2 }
  next.note (.tool call)

/-- The session after a buffer was handed to the machine, whether it took it or not. -/
def afterReturn (session : Session J) (buffer : BufferId) : Session J :=
  let reply := J.deallocate buffer session.state
  let next : Session J := { session with state := reply.2 }
  next.returnBuffer buffer (reply.1 == .success)

/-- The session after the contents of a buffer were copied, if they were. -/
def afterCopy (session : Session J) (buffer : BufferId) (copied : Bool) : Session J :=
  if copied then session.note (.read buffer) else session

end Session

theorem balanced_call {session : Session J} {call : ToolCall} (hcall : call ≠ .followReferences)
    (hnone : (J.ask call session.state).1 = false) : Balanced session (session.afterCall call) := by
  have hlent : J.lent session.state [.tool call] = 0 := by
    simp [Machine.lent, Machine.lends, hnone]
  refine ⟨[.tool call], ?_, rfl, ?_⟩
  · rw [hlent]
    exact .of_quiet rfl rfl (List.forall_mem_singleton.mpr ⟨rfl, rfl, rfl⟩)
  · exact List.forall_mem_singleton.mpr (by simp [SessionEvent.IsOfWalk, hcall])

/-- A buffer that comes with an answer is handed back before anything else is asked. -/
theorem balanced_exchange {session : Session J} {call : ToolCall}
    (hsome : (J.ask call session.state).1 = true) (copied : Bool) :
    let buffer := session.buffers.length
    Balanced session
      (((session.afterCall call).addBuffer.afterCopy buffer copied).afterReturn buffer) := by
  intro buffer
  let reads : List (SessionEvent J.Object J.Method) := if copied then [.read buffer] else []
  let made : List (SessionEvent J.Object J.Method) :=
    .tool call :: .allocated buffer :: (reads ++ [.handedBack buffer])
  have hlent : J.lent session.state made = 1 := by
    cases copied <;> simp [made, reads, Machine.lent, Machine.lends, hsome]
  have hcall : call ≠ .followReferences := by
    rintro rfl
    exact Bool.false_ne_true hsome
  have hwalk : ∀ event ∈ made, ¬ event.IsOfWalk := by
    cases copied <;> simp [made, reads, hcall, SessionEvent.IsOfWalk]
  refine ⟨made, ?_, by cases copied <;> rfl, hwalk⟩
  rw [hlent]
  refine ⟨?_, ?_, ?_, ?_, ?_, ?_⟩
  · cases copied <;> simp [made, reads, Session.afterReturn, Session.afterCopy, Session.afterCall,
      Session.addBuffer, Session.returnBuffer, Session.note, buffer]
  · cases copied <;> rfl
  · cases copied <;> rfl
  · cases copied with
    | true => exact .refl _
    | false => exact List.nil_sublist _
  · cases copied <;> simp [made, reads]
  · let code := (J.deallocate buffer (J.ask call session.state).2).1
    refine ⟨[⟨1, code == .success⟩], ?_, rfl, List.forall_mem_singleton.mpr rfl⟩
    have hreturned := modify_length_append session.buffers [] ⟨0, false⟩ fun entry : BufferEntry =>
      ⟨entry.returns + 1, entry.freed || code == .success⟩
    cases copied <;> exact hreturned

end ExhaustionGuard.Jvm
