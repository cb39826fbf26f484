import ExhaustionGuard.Jvm.Beans
import ExhaustionGuard.Proofs.Host.Exploration

/-! # Conduct towards a Java machine

A machine may answer any call with null, with an exception or with both. Whoever
calls it has to take an exception off before the next call, whether there is a
next call or not. An operation that conducts itself well does so whatever the
machine answers, and ends well just if all the answers were good.
-/

namespace ExhaustionGuard.Jvm

variable {J : Machine} {α β : Type}

/-! ## What a machine said -/

/-- Whether a result is there, where it may be null. -/
def isThere {Object Method : Type} : (shape : Shape) → Result Object Method shape → Bool
  | .object, value => value.isSome
  | .method, value => value.isSome
  | .chars, value => value.isSome
  | .number, _ => true
  | .nothing, _ => true

/-- The reply to a call of some shape. -/
structure Answer (J : Machine) where
  shape : Shape
  reply : Reply (Result J.Object J.Method shape)

/-- No exception is raised, and nothing is null. -/
def Answer.IsGood (answer : Answer J) : Prop :=
  answer.reply.raises = false ∧ isThere answer.shape answer.reply.value = true

namespace Machine

/-- The state of a machine after an event of a session. -/
def hear (J : Machine) (state : J.State) : SessionEvent J.Object J.Method → J.State
  | .called _ call _ => (J.answer call state).2
  | _ => state

def hearAll (J : Machine) (state : J.State) (made : List (SessionEvent J.Object J.Method)) :
    J.State :=
  made.foldl J.hear state

/-- What the machine answers to the calls among some events, from a state on. -/
def answers (J : Machine) : J.State → List (SessionEvent J.Object J.Method) → List (Answer J)
  | _, [] => []
  | state, .called shape call pending :: rest =>
      ⟨shape, (J.answer call state).1⟩ :: J.answers (J.hear state (.called shape call pending)) rest
  | state, _ :: rest => J.answers state rest

theorem hearAll_append (state : J.State) (first second : List (SessionEvent J.Object J.Method)) :
    J.hearAll state (first ++ second) = J.hearAll (J.hearAll state first) second :=
  List.foldl_append

theorem answers_append (state : J.State) (first second : List (SessionEvent J.Object J.Method)) :
    J.answers state (first ++ second) =
      J.answers state first ++ J.answers (J.hearAll state first) second := by
  induction first generalizing state with
  | nil => rfl
  | cons event rest ih =>
      cases event with
      | called shape call pending => exact congrArg (_ :: ·) (ih _)
      | _ => exact ih state

end Machine

/-- A look-up of a class or a method, or the making of a string. -/
def Call.IsLookup {Object Method : Type} {shape : Shape} : Call Object Method shape → Prop
  | .findClass _ | .newString _ | .methodId .. | .staticMethodId .. => True
  | _ => False

/-- A look-up that finds something leaves no exception. -/
def Machine.LooksUpCleanly (J : Machine) : Prop :=
  ∀ {shape : Shape} (call : Call J.Object J.Method shape) (state : J.State), call.IsLookup →
    isThere shape (J.answer call state).1.value = true → (J.answer call state).1.raises = false

/-! ## What happened in a session -/

/-- No call is made while an exception is pending, and nothing is done but to make calls, to take
exceptions off, and to obtain and delete references. -/
def SessionEvent.IsLegal {Object Method : Type} : SessionEvent Object Method → Prop
  | .called _ _ pending => pending = false
  | .described | .cleared | .obtained _ | .deleted _ => True
  | _ => False

/-- Such legal events lead from one session to another. -/
structure Course (before after : Session J) (made : List (SessionEvent J.Object J.Method)) :
    Prop where
  trace : after.trace = before.trace ++ made
  state : after.state = J.hearAll before.state made
  legal : ∀ event ∈ made, event.IsLegal

namespace Course

variable {before between after : Session J} {first second : List (SessionEvent J.Object J.Method)}

theorem refl (session : Session J) : Course session session [] :=
  ⟨(List.append_nil _).symm, rfl, fun _ hevent => absurd hevent List.not_mem_nil⟩

theorem trans (hfirst : Course before between first) (hsecond : Course between after second) :
    Course before after (first ++ second) where
  trace := by rw [hsecond.trace, hfirst.trace, List.append_assoc]
  state := by rw [hsecond.state, hfirst.state, Machine.hearAll_append]
  legal event hevent := by
    rcases List.mem_append.mp hevent with hevent | hevent
    · exact hfirst.legal event hevent
    · exact hsecond.legal event hevent

theorem deleteRef (session : Session J) (ref : Ref) :
    Course session (session.deleteRef ref) [.deleted ref] :=
  ⟨rfl, rfl, fun _ hevent => List.mem_singleton.mp hevent ▸ trivial⟩

end Course

/-- The session after a pending exception was taken off. -/
def Session.relieved (session : Session J) : Session J :=
  let described := session.note .described
  let next : Session J := { described with pending := false }
  next.note .cleared

theorem Course.relieved (session : Session J) :
    Course session session.relieved [.described, .cleared] := by
  refine ⟨?_, rfl, fun event hevent => ?_⟩
  · exact List.append_assoc _ _ _
  · rcases List.mem_cons.mp hevent with rfl | hevent
    · trivial
    · exact List.mem_singleton.mp hevent ▸ trivial

/-- How an operation went that began with no exception pending. It is able to end well if the
machine lets it, unless something else keeps it from that. -/
structure WellConducted (able : Prop) (before : Session J)
    (result : Except HostFault α × Session J) : Prop where
  course : ∃ made, Course before result.2 made ∧
    ((∃ value, result.1 = .ok value) ↔
      able ∧ ∀ answer ∈ J.answers before.state made, answer.IsGood)
  /-- No exception is left behind. -/
  pending : result.2.pending = false

/-- An operation that goes well-conducted from every session without a pending exception. -/
def Conducts (able : Prop) (operation : Beans.BeanM J α) : Prop :=
  ∀ session : Session J, session.pending = false →
    WellConducted able session (operation.finish session)

/-! ## Single calls -/

/-- One call was made, and its answer may have left an exception pending. -/
structure Asked (before after : Session J) (answer : Answer J) : Prop where
  course : ∃ made, Course before after made ∧ J.answers before.state made = [answer]
  pending : after.pending = answer.reply.raises

theorem Asked.not_isGood {before after : Session J} {answer : Answer J}
    (hasked : Asked before after answer) (hpending : after.pending = true) : ¬ answer.IsGood := by
  intro hgood
  rw [hasked.pending, hgood.1] at hpending
  cases hpending

theorem Answer.not_isGood_of_missing {answer : Answer J}
    (hmissing : isThere answer.shape answer.reply.value = false) : ¬ answer.IsGood := by
  intro hgood
  rw [hgood.2] at hmissing
  cases hmissing

/-- A step that makes one call. What comes back may be missing, just if it is in the answer. -/
def AsksOnce (step : SessionM J α) (there : α → Bool) : Prop :=
  ∀ session : Session J, session.pending = false → ∃ answer,
    Asked session (step session).2 answer ∧
      there (step session).1 = isThere answer.shape answer.reply.value

/-- A step that makes one look-up. -/
def LooksUp (step : SessionM J (Option α)) : Prop :=
  ∀ session : Session J, session.pending = false → ∃ answer,
    Asked session (step session).2 answer ∧
      (step session).1.isSome = isThere answer.shape answer.reply.value ∧
      (isThere answer.shape answer.reply.value = true → answer.reply.raises = false)

theorem asked_call {shape : Shape} (call : Session J → Call J.Object J.Method shape)
    {session : Session J} (hpending : session.pending = false) :
    Asked session (SessionM.call call session).2
      ⟨shape, (J.answer (call session) session.state).1⟩ := by
  refine ⟨⟨[.called shape (call session) session.pending], ⟨rfl, rfl, ?_⟩, rfl⟩, ?_⟩
  · exact fun event hevent => List.mem_singleton.mp hevent ▸ hpending
  · change (session.pending || _) = _
    rw [hpending, Bool.false_or]

theorem asksOnce_call {shape : Shape} (call : Session J → Call J.Object J.Method shape) :
    AsksOnce (SessionM.call call) (isThere shape) :=
  fun _ hpending => ⟨_, asked_call call hpending, rfl⟩

theorem Course.addRef (session : Session J) (object : J.Object) :
    Course session (session.addRef object) [.obtained session.refs.length] :=
  ⟨rfl, rfl, fun _ hevent => List.mem_singleton.mp hevent ▸ trivial⟩

theorem run_obtain (object : Session J → Call J.Object J.Method .object) (session : Session J) :
    SessionM.obtain object session =
      match (J.answer (object session) session.state).1.value with
      | none => (none, (SessionM.call object session).2)
      | some found => (some (SessionM.call object session).2.refs.length,
          (SessionM.call object session).2.addRef found) := by
  change (match (J.answer (object session) session.state).1.value with
    | none => pure none
    | some found => modifyGet fun session =>
        (some session.refs.length, session.addRef found) : SessionM J (Option Ref))
      (SessionM.call object session).2 = _
  cases (J.answer (object session) session.state).1.value <;> rfl

/-- The newest reference stands for the object that was counted with it. -/
theorem Session.handle_addRef (session : Session J) (object : J.Object) :
    (session.addRef object).handle (some session.refs.length) = .live object := by
  have hnewest : (session.addRef object).refs[session.refs.length]? = some ⟨object, 0⟩ :=
    List.getElem?_concat_length
  rw [handle, hnewest]
  rfl

/-- An object that comes back is counted as a new reference, and nothing else. -/
theorem asked_obtain (object : Session J → Call J.Object J.Method .object) {session : Session J}
    (hpending : session.pending = false) :
    Asked session (SessionM.obtain object session).2
        ⟨.object, (J.answer (object session) session.state).1⟩ ∧
      (SessionM.obtain object session).1.isSome =
        (J.answer (object session) session.state).1.value.isSome := by
  obtain ⟨⟨made, hcourse, hanswers⟩, hraises⟩ := asked_call object hpending
  rw [run_obtain]
  split
  next hvalue => exact ⟨⟨⟨made, hcourse, hanswers⟩, hraises⟩, by rw [hvalue]; rfl⟩
  next found hvalue =>
    have hcounted := hcourse.trans (.addRef _ found)
    refine ⟨⟨⟨_, hcounted, ?_⟩, hraises⟩, by rw [hvalue]; rfl⟩
    rw [Machine.answers_append, hanswers]
    rfl

theorem asksOnce_obtain (object : Session J → Call J.Object J.Method .object) :
    AsksOnce (SessionM.obtain object) Option.isSome :=
  fun _ hpending => ⟨_, asked_obtain object hpending⟩

theorem looksUp_obtain (hclean : J.LooksUpCleanly)
    {object : Session J → Call J.Object J.Method .object}
    (hlookup : ∀ session, (object session).IsLookup) : LooksUp (SessionM.obtain object) := by
  intro session hpending
  obtain ⟨hasked, hthere⟩ := asked_obtain object hpending
  exact ⟨_, hasked, hthere, hclean _ _ (hlookup session)⟩

theorem looksUp_call (hclean : J.LooksUpCleanly)
    {method : Session J → Call J.Object J.Method .method}
    (hlookup : ∀ session, (method session).IsLookup) : LooksUp (SessionM.call method) :=
  fun session hpending => ⟨_, asked_call method hpending, rfl, hclean _ _ (hlookup session)⟩

/-! ## Rules -/

theorem conducts_pure (value : α) : Conducts True (pure value : Beans.BeanM J α) := by
  intro session hpending
  refine ⟨⟨[], .refl session, fun _ => ⟨trivial, fun _ hanswer => ?_⟩, fun _ => ⟨value, rfl⟩⟩,
    hpending⟩
  exact absurd hanswer List.not_mem_nil

theorem conducts_fail (error : HostError) :
    Conducts False (HostM.fail error : Beans.BeanM J α) := by
  intro session hpending
  refine ⟨⟨[], .refl session, fun hok => ?_, fun hable => hable.1.elim⟩, hpending⟩
  obtain ⟨value, hvalue⟩ := hok
  cases hvalue

namespace Conducts

variable {able : Prop} {first : Beans.BeanM J α} {next : α → Beans.BeanM J β}

theorem bind (hfirst : Conducts True first) (hnext : ∀ value, Conducts able (next value)) :
    Conducts able (first >>= next) := by
  intro session hpending
  have hconducted := hfirst session hpending
  rw [HostM.finish_bind]
  cases hrun : first.finish session with
  | mk ending between =>
      rw [hrun] at hconducted
      obtain ⟨⟨made, hcourse, hgood⟩, hbetween⟩ := hconducted
      cases ending with
      | error fault =>
          refine ⟨⟨made, hcourse, fun hok => ?_, fun hable => ?_⟩, hbetween⟩
          · obtain ⟨value, hvalue⟩ := hok
            cases hvalue
          · obtain ⟨value, hvalue⟩ := hgood.mpr ⟨trivial, hable.2⟩
            cases hvalue
      | ok value =>
          -- the answers to the second part are those of the machine as the first part left it
          have hmade := (hgood.mp ⟨value, rfl⟩).2
          obtain ⟨⟨later, hlater, hends⟩, hafter⟩ := hnext value between hbetween
          refine ⟨⟨made ++ later, hcourse.trans hlater, hends.trans ?_⟩, hafter⟩
          rw [Machine.answers_append, List.forall_mem_append, ← hcourse.state]
          exact and_congr_right fun _ => ⟨fun hgood => ⟨hmade, hgood⟩, And.right⟩

/-- The reference is deleted however its use ends. -/
theorem withRef (ref : Ref) (hfirst : Conducts able first) :
    Conducts able (Beans.withRef ref first) := by
  intro session hpending
  obtain ⟨⟨made, hcourse, hends⟩, hafter⟩ := hfirst session hpending
  refine ⟨⟨made ++ [.deleted ref], hcourse.trans (.deleteRef _ ref), hends.trans ?_⟩, hafter⟩
  rw [Machine.answers_append]
  exact and_congr_right fun _ => by simp [Machine.answers]

end Conducts

theorem finish_inSession_bind (step : SessionM J α) (next : α → Beans.BeanM J β)
    (session : Session J) :
    (Beans.inSession step >>= next).finish session =
      (next (step session).1).finish (step session).2 := rfl

theorem finish_takeException (session : Session J) :
    (discard (Beans.inSession SessionM.takeException)).finish session =
      (.ok (), if session.pending then session.relieved else session) := by
  obtain ⟨state, pending, refs, chars, buffers, trace⟩ := session
  cases pending <;> rfl

theorem finish_check (what : String) (session : Session J) :
    (Beans.check what).finish session =
      if session.pending then (.error (.failed (.java (.threw what))), session.relieved)
      else (.ok (), session) := by
  obtain ⟨state, pending, refs, chars, buffers, trace⟩ := session
  cases pending <;> rfl

theorem finish_returned (object : Option Ref) (what : String) (session : Session J) :
    (Beans.returned object what).finish session =
      if session.pending then
        (.error (.failed (.java (.threw what))), (SessionM.deleteRef object session.relieved).2)
      else
        match object with
        | some ref => (.ok ref, session)
        | none => (.error (.failed (.java (.returnedNull what))), session) := by
  obtain ⟨state, pending, refs, chars, buffers, trace⟩ := session
  cases pending <;> cases object <;> rfl

theorem conducts_takeException :
    Conducts True (discard (Beans.inSession SessionM.takeException) : Beans.BeanM J Unit) := by
  intro session hpending
  rw [finish_takeException, hpending]
  exact conducts_pure () session hpending

namespace WellConducted

variable {before after last : Session J} {answer : Answer J} {able : Prop}

/-- What is done after a good answer decides how the whole goes. -/
theorem of_good (hasked : Asked before after answer) (hgood : answer.IsGood)
    {result : Except HostFault α × Session J} (hlater : WellConducted able after result) :
    WellConducted able before result := by
  obtain ⟨made, hcourse, hanswers⟩ := hasked.course
  obtain ⟨⟨later, hafter, hends⟩, hpending⟩ := hlater
  refine ⟨⟨made ++ later, hcourse.trans hafter, hends.trans ?_⟩, hpending⟩
  rw [Machine.answers_append, List.forall_mem_append, hanswers, ← hcourse.state]
  refine and_congr_right fun _ => ⟨fun hrest => ⟨?_, hrest⟩, And.right⟩
  exact fun _ hanswer => List.mem_singleton.mp hanswer ▸ hgood

/-- After a bad answer there is nothing left but to take off the exception. -/
theorem of_bad (hasked : Asked before after answer) (hbad : ¬ answer.IsGood)
    {late : List (SessionEvent J.Object J.Method)} (hlate : Course after last late)
    (hpending : last.pending = false) (fault : HostFault) :
    WellConducted able before ((.error fault, last) : Except HostFault α × Session J) := by
  obtain ⟨made, hcourse, hanswers⟩ := hasked.course
  refine ⟨⟨made ++ late, hcourse.trans hlate, fun hok => ?_, fun hable => ?_⟩, hpending⟩
  · obtain ⟨value, hvalue⟩ := hok
    cases hvalue
  · refine absurd (hable.2 answer ?_) hbad
    rw [Machine.answers_append, hanswers]
    exact List.mem_append_left _ (List.mem_singleton_self answer)

end WellConducted

namespace Conducts

variable {able : Prop} {next : α → Beans.BeanM J β}

/-- A call whose answer cannot be null is followed by a check. -/
theorem checked {step : SessionM J α} (hstep : AsksOnce step fun _ => true) (what : String)
    (hnext : ∀ value, Conducts able (next value)) :
    Conducts able (Beans.inSession step >>= fun value => Beans.check what >>= fun _ =>
      next value) := by
  intro session hpending
  obtain ⟨answer, hasked, hthere⟩ := hstep session hpending
  rw [finish_inSession_bind, HostM.finish_bind, finish_check]
  cases hraised : (step session).2.pending with
  | false =>
      have hgood : answer.IsGood := ⟨hasked.pending.symm.trans hraised, hthere.symm⟩
      exact .of_good hasked hgood (hnext _ _ hraised)
  | true => exact .of_bad hasked (hasked.not_isGood hraised) (.relieved _) rfl _

/-- An object that came back is either returned, with no exception pending, or deleted. -/
theorem returned {step : SessionM J (Option Ref)} (hstep : AsksOnce step Option.isSome)
    (what : String) :
    Conducts True (Beans.inSession step >>= fun object => Beans.returned object what) := by
  intro session hpending
  obtain ⟨answer, hasked, hthere⟩ := hstep session hpending
  rw [finish_inSession_bind, finish_returned]
  cases hraised : (step session).2.pending with
  | true =>
      have hbad := hasked.not_isGood hraised
      -- an object may come back together with an exception, and is deleted all the same
      cases (step session).1 with
      | none => exact .of_bad hasked hbad (.relieved _) rfl _
      | some ref => exact .of_bad hasked hbad ((Course.relieved _).trans (.deleteRef _ ref)) rfl _
  | false =>
      cases hobject : (step session).1 with
      | none =>
          rw [hobject] at hthere
          exact .of_bad hasked (Answer.not_isGood_of_missing hthere.symm) (.refl _) hraised _
      | some ref =>
          rw [hobject] at hthere
          have hgood : answer.IsGood := ⟨hasked.pending.symm.trans hraised, hthere.symm⟩
          exact .of_good hasked hgood (conducts_pure ref _ hraised)

/-- A look-up that found nothing may have left an exception, which is taken off. -/
theorem lookedUp {step : SessionM J (Option α)} (hstep : LooksUp step)
    {next : Option α → Beans.BeanM J β} {reason : JavaFault}
    (hfound : ∀ value, Conducts able (next (some value)))
    (hmissing : next none = do
      discard (Beans.inSession SessionM.takeException)
      Beans.fault reason) :
    Conducts able (Beans.inSession step >>= next) := by
  intro session hpending
  obtain ⟨answer, hasked, hthere, hquiet⟩ := hstep session hpending
  rw [finish_inSession_bind]
  cases hvalue : (step session).1 with
  | some value =>
      rw [hvalue] at hthere
      have hraises := hquiet hthere.symm
      exact .of_good hasked ⟨hraises, hthere.symm⟩ (hfound value _ (hasked.pending.trans hraises))
  | none =>
      rw [hvalue] at hthere
      have hbad := Answer.not_isGood_of_missing hthere.symm
      rw [hmissing, HostM.finish_bind, finish_takeException]
      cases hraised : (step session).2.pending with
      | true => exact .of_bad hasked hbad (.relieved _) rfl _
      | false => exact .of_bad hasked hbad (.refl _) hraised _

end Conducts

end ExhaustionGuard.Jvm
