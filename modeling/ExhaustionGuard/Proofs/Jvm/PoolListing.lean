import ExhaustionGuard.Proofs.Jvm.Discipline

/-! # Discipline of the pool listing

Listing the pools reads their names, and a machine that is short of memory may
refuse the characters of a string and leave an exception pending. Every other
exception is taken off before the next call; that one ends the listing and
stays. So no call of a listing is made while an exception is pending, but one
is left behind just if the last answer was such a refusal.
-/

namespace ExhaustionGuard.Jvm

variable {J : Machine} {α β : Type}

/-- Characters that come back leave no exception. -/
def Machine.ShowsCleanly (J : Machine) : Prop :=
  ∀ (string : Handle J.Object) (state : J.State),
    (J.answer (.stringChars string) state).1.value.isSome = true →
      (J.answer (.stringChars string) state).1.raises = false

theorem object_ne_chars : Shape.object ≠ .chars := by decide

theorem method_ne_chars : Shape.method ≠ .chars := by decide

/-- The characters of a string are refused, and an exception is left pending. -/
def Answer.refusal : Answer J := ⟨.chars, ⟨(none : Option Text.Bytes), true⟩⟩

/-- No call is made while an exception is pending. Strings may be read, but the tool interface is
left alone. -/
def SessionEvent.IsOrderly {Object Method : Type} : SessionEvent Object Method → Prop
  | .called _ _ pending => pending = false
  | .described | .cleared | .obtained _ | .deleted _ | .charsHeld _ | .charsReleased _ => True
  | _ => False

theorem SessionEvent.IsLegal.isOrderly {Object Method : Type} {event : SessionEvent Object Method}
    (hlegal : event.IsLegal) : event.IsOrderly := by
  cases event with
  | called => exact hlegal
  | described | cleared | obtained | deleted => trivial
  | _ => exact hlegal.elim

/-- Such orderly events lead from one session to another. -/
structure Passage (before after : Session J) (made : List (SessionEvent J.Object J.Method)) :
    Prop where
  trace : after.trace = before.trace ++ made
  state : after.state = J.hearAll before.state made
  orderly : ∀ event ∈ made, event.IsOrderly

theorem Course.passage {before after : Session J}
    {made : List (SessionEvent J.Object J.Method)} (hcourse : Course before after made) :
    Passage before after made :=
  ⟨hcourse.trace, hcourse.state, fun event hevent => (hcourse.legal event hevent).isOrderly⟩

theorem Passage.trans {before between after : Session J}
    {first second : List (SessionEvent J.Object J.Method)}
    (hfirst : Passage before between first) (hsecond : Passage between after second) :
    Passage before after (first ++ second) where
  trace := by rw [hsecond.trace, hfirst.trace, List.append_assoc]
  state := by rw [hsecond.state, hfirst.state, Machine.hearAll_append]
  orderly event hevent := by
    rcases List.mem_append.mp hevent with hevent | hevent
    · exact hfirst.orderly event hevent
    · exact hsecond.orderly event hevent

/-- How an operation went that may read strings. -/
structure Listed (before : Session J) (result : Except HostFault α × Session J) : Prop where
  /-- An exception is left behind just if the last answer was a refusal of characters. -/
  passage : ∃ made, Passage before result.2 made ∧
    (result.2.pending = true ↔ (J.answers before.state made).getLast? = some Answer.refusal)
  /-- What is left behind shows in the ending. -/
  ending : result.2.pending = true → result.1 = .error (.failed (.java .unreadablePoolName))

/-- An operation that goes orderly from every session without a pending exception. -/
def Lists (operation : Beans.BeanM J α) : Prop :=
  ∀ session : Session J, session.pending = false → Listed session (operation.finish session)

/-! ## Rules -/

namespace Listed

variable {before between : Session J} {result : Except HostFault α × Session J}
  {made : List (SessionEvent J.Object J.Method)}

/-- Events without an answer that leave nothing pending. -/
theorem of_quiet (hpassage : Passage before result.2 made)
    (hanswers : J.answers before.state made = []) (hpending : result.2.pending = false) :
    Listed before result := by
  refine ⟨⟨made, hpassage, ?_⟩, fun hleft => ?_⟩
  · simp [hanswers, hpending]
  · rw [hpending] at hleft
    cases hleft

/-- What went before and ended in no refusal does not matter. -/
theorem prepend (hfirst : Passage before between made)
    (hlast : (J.answers before.state made).getLast? ≠ some Answer.refusal)
    (hlater : Listed between result) : Listed before result := by
  obtain ⟨⟨later, hpassage, hpending⟩, hending⟩ := hlater
  refine ⟨⟨made ++ later, hfirst.trans hpassage, hpending.trans ?_⟩, hending⟩
  rw [Machine.answers_append, ← hfirst.state, List.getLast?_append]
  cases (J.answers between.state later).getLast? with
  | some answer => simp
  | none => simp [hlast]

/-- What is done after a call that does not ask for characters decides how the whole goes. -/
theorem of_asked {answer : Answer J} (hasked : Asked before between answer)
    (hshape : answer.shape ≠ .chars) (hlater : Listed between result) : Listed before result := by
  obtain ⟨made, hcourse, hanswers⟩ := hasked.course
  refine hlater.prepend hcourse.passage ?_
  rw [hanswers, List.getLast?_singleton]
  intro hrefusal
  exact hshape (congrArg Answer.shape (Option.some.inj hrefusal))

theorem bind {first : Beans.BeanM J α} {next : α → Beans.BeanM J β}
    (hfirst : Listed before (first.finish before)) (hnext : ∀ value, Lists (next value)) :
    Listed before ((first >>= next).finish before) := by
  rw [HostM.finish_bind]
  cases hrun : first.finish before with
  | mk ending between =>
      rw [hrun] at hfirst
      obtain ⟨⟨made, hpassage, hpending⟩, hends⟩ := hfirst
      cases ending with
      | error fault =>
          refine ⟨⟨made, hpassage, hpending⟩, fun hleft => ?_⟩
          exact congrArg Except.error (Except.error.inj (hends hleft))
      | ok value =>
          have hbetween : between.pending = false := by
            by_contra hleft
            cases hends (by simpa using hleft)
          refine (hnext value between hbetween).prepend hpassage fun hrefusal => ?_
          rw [hpending.mpr hrefusal] at hbetween
          cases hbetween

/-- The reference is deleted however its use ends. -/
theorem withRef {use : Beans.BeanM J α} (ref : Ref) (huse : Listed before (use.finish before)) :
    Listed before ((Beans.withRef ref use).finish before) := by
  obtain ⟨⟨made, hpassage, hpending⟩, hending⟩ := huse
  refine ⟨⟨made ++ [.deleted ref], hpassage.trans (Course.deleteRef _ ref).passage,
    hpending.trans ?_⟩, hending⟩
  rw [Machine.answers_append]
  simp [Machine.answers]

end Listed

/-- A pending exception is taken off, whether it has to be or not. -/
theorem listed_check (what : String) (session : Session J) :
    Listed session ((Beans.check what).finish session) := by
  rw [finish_check]
  cases hpending : session.pending with
  | true => exact .of_quiet (Course.relieved session).passage rfl rfl
  | false => exact .of_quiet (Course.refl session).passage rfl hpending

theorem listed_returned (object : Option Ref) (what : String) (session : Session J) :
    Listed session ((Beans.returned object what).finish session) := by
  rw [finish_returned]
  cases hpending : session.pending with
  | true =>
      cases object with
      | none => exact .of_quiet (Course.relieved session).passage rfl rfl
      | some ref =>
          have hcourse := (Course.relieved session).trans (.deleteRef _ ref)
          exact .of_quiet hcourse.passage rfl rfl
  | false =>
      cases object with
      | none => exact .of_quiet (Course.refl session).passage rfl hpending
      | some ref => exact .of_quiet (Course.refl session).passage rfl hpending

theorem listed_takeException (session : Session J) :
    Listed session ((discard (Beans.inSession SessionM.takeException)).finish session) := by
  rw [finish_takeException]
  cases hpending : session.pending with
  | true => exact .of_quiet (Course.relieved session).passage rfl rfl
  | false => exact .of_quiet (Course.refl session).passage rfl hpending

theorem lists_pure (value : α) : Lists (pure value : Beans.BeanM J α) :=
  fun session hpending => .of_quiet (Course.refl session).passage rfl hpending

theorem lists_fault (reason : JavaFault) : Lists (Beans.fault reason : Beans.BeanM J α) :=
  fun session hpending => .of_quiet (Course.refl session).passage rfl hpending

namespace Lists

theorem bind {first : Beans.BeanM J α} {next : α → Beans.BeanM J β} (hfirst : Lists first)
    (hnext : ∀ value, Lists (next value)) : Lists (first >>= next) :=
  fun session hpending => (hfirst session hpending).bind hnext

theorem withRef {use : Beans.BeanM J α} (ref : Ref) (huse : Lists use) :
    Lists (Beans.withRef ref use) :=
  fun session hpending => (huse session hpending).withRef ref

/-- A call is followed by something that goes orderly whether an exception is pending or not. -/
theorem called {shape : Shape} {call : Session J → Call J.Object J.Method shape}
    (hshape : shape ≠ .chars) {next : Result J.Object J.Method shape → Beans.BeanM J β}
    (hnext : ∀ value session, Listed session ((next value).finish session)) :
    Lists (Beans.inSession (SessionM.call call) >>= next) := by
  intro session hpending
  rw [finish_inSession_bind]
  exact .of_asked (asked_call call hpending) hshape (hnext _ _)

theorem obtained {object : Session J → Call J.Object J.Method .object}
    {next : Option Ref → Beans.BeanM J β}
    (hnext : ∀ value session, Listed session ((next value).finish session)) :
    Lists (Beans.inSession (SessionM.obtain object) >>= next) := by
  intro session hpending
  rw [finish_inSession_bind]
  exact .of_asked (asked_obtain object hpending).1 object_ne_chars (hnext _ _)

/-- A look-up that found nothing may have left an exception, which is taken off. -/
theorem lookedUp {step : SessionM J (Option α)}
    (hstep : ∀ session, session.pending = false → ∃ answer,
      Asked session (step session).2 answer ∧ answer.shape ≠ .chars ∧
        ((step session).1.isSome = true → answer.reply.raises = false))
    {next : Option α → Beans.BeanM J β} {reason : JavaFault}
    (hfound : ∀ value, Lists (next (some value)))
    (hmissing : next none = do
      discard (Beans.inSession SessionM.takeException)
      Beans.fault reason) :
    Lists (Beans.inSession step >>= next) := by
  intro session hpending
  obtain ⟨answer, hasked, hshape, hquiet⟩ := hstep session hpending
  rw [finish_inSession_bind]
  refine .of_asked hasked hshape ?_
  cases hvalue : (step session).1 with
  | some value =>
      rw [hvalue] at hquiet
      exact hfound value _ (hasked.pending.trans (hquiet rfl))
  | none =>
      rw [hmissing]
      exact (listed_takeException _).bind fun _ => lists_fault reason

end Lists

/-! ## Reading strings -/

/-- The call that a string is read with. -/
def charsCall (string : Ref) (session : Session J) : Call J.Object J.Method .chars :=
  .stringChars (session.handle (some string))

/-- The session after the characters of a string were read. -/
def Session.afterReading (session : Session J) : Session J :=
  session.holdChars.releaseChars session.chars.length

theorem run_readString (string : Ref) (session : Session J) :
    SessionM.readString (some string) session =
      match (SessionM.call (charsCall string) session).1 with
      | none => (none, (SessionM.call (charsCall string) session).2)
      | some bytes => (some (Text.decodeCString bytes),
          (SessionM.call (charsCall string) session).2.afterReading) := by
  change (match (SessionM.call (charsCall string) session).1 with
    | none => pure none
    | some bytes => do
        modify fun session => session.afterReading
        pure (some (Text.decodeCString bytes)) : SessionM J (Option String))
      (SessionM.call (charsCall string) session).2 = _
  cases (SessionM.call (charsCall string) session).1 <;> rfl

theorem passage_afterReading (session : Session J) :
    Passage session session.afterReading
      [.charsHeld session.chars.length, .charsReleased session.chars.length] := by
  refine ⟨List.append_assoc _ _ _, rfl, fun event hevent => ?_⟩
  rcases List.mem_cons.mp hevent with rfl | hevent
  · trivial
  · exact List.mem_singleton.mp hevent ▸ trivial

theorem eq_refusal_iff {reply : Reply (Result J.Object J.Method .chars)} :
    (⟨.chars, reply⟩ : Answer J) = .refusal ↔ reply.value = none ∧ reply.raises = true := by
  obtain ⟨value, raises⟩ := reply
  simp [Answer.refusal]

/-- A name is read, or the listing ends with what the refusal left behind. -/
theorem Lists.readString (hshown : J.ShowsCleanly) (string : Ref)
    {next : Option String → Beans.BeanM J β} (hread : ∀ text, Lists (next (some text)))
    (hunread : next none = Beans.fault .unreadablePoolName) :
    Lists (Beans.inSession (SessionM.readString (some string)) >>= next) := by
  intro session hpending
  have hasked := asked_call (charsCall string) hpending
  obtain ⟨made, hcourse, hanswers⟩ := hasked.course
  rw [finish_inSession_bind, run_readString]
  cases hvalue : (SessionM.call (charsCall string) session).1 with
  | none =>
      rw [hunread]
      refine ⟨⟨made, hcourse.passage, ?_⟩, fun _ => rfl⟩
      rw [hanswers, List.getLast?_singleton, Option.some.injEq, eq_refusal_iff]
      exact hasked.pending ▸ (and_iff_right hvalue).symm
  | some bytes =>
      have hraises := hshown (session.handle (some string)) session.state
        (Option.isSome_iff_exists.mpr ⟨bytes, hvalue⟩)
      have hlater := hread (Text.decodeCString bytes)
        (SessionM.call (charsCall string) session).2.afterReading (hasked.pending.trans hraises)
      refine (hlater.prepend (passage_afterReading _) nofun).prepend hcourse.passage ?_
      rw [hanswers, List.getLast?_singleton, ne_eq, Option.some.injEq, eq_refusal_iff]
      exact fun hrefused => Bool.false_ne_true (hraises.symm.trans hrefused.2)

namespace Beans

/-! ## The operations of a listing -/

theorem lists_classNamed (hclean : J.LooksUpCleanly) {name : String}
    (hname : ¬ Text.hasNul name = true) : Lists (classNamed name : BeanM J Ref) := by
  refine .lookedUp (fun session hpending => ?_) lists_pure rfl
  rw [SessionM.findClass, if_neg hname]
  obtain ⟨hasked, hthere⟩ := asked_obtain (fun _ => .findClass name) hpending
  exact ⟨_, hasked, object_ne_chars, fun hfound => hclean _ _ trivial (hthere.symm.trans hfound)⟩

theorem lists_method (hclean : J.LooksUpCleanly) (cls : Ref) {name signature : String}
    (hname : ¬ (Text.hasNul name || Text.hasNul signature) = true) :
    Lists (method cls name signature : BeanM J J.Method) := by
  refine .lookedUp (fun session hpending => ?_) lists_pure rfl
  rw [SessionM.methodId, if_neg hname]
  exact ⟨_, asked_call _ hpending, method_ne_chars, hclean (.methodId _ name signature) _ trivial⟩

theorem lists_staticMethod (hclean : J.LooksUpCleanly) (cls : Ref) {name signature : String}
    (hname : ¬ (Text.hasNul name || Text.hasNul signature) = true) :
    Lists (staticMethod cls name signature : BeanM J J.Method) := by
  refine .lookedUp (fun session hpending => ?_) lists_pure rfl
  rw [SessionM.staticMethodId, if_neg hname]
  exact ⟨_, asked_call _ hpending, method_ne_chars,
    hclean (.staticMethodId _ name signature) _ trivial⟩

theorem lists_beanOf (hclean : J.LooksUpCleanly) (factory : Ref) {getter signature : String}
    (hname : ¬ (Text.hasNul getter || Text.hasNul signature) = true) :
    Lists (beanOf factory getter signature : BeanM J Ref) := by
  refine (lists_staticMethod hclean factory hname).bind fun get => ?_
  exact .obtained fun bean => listed_returned bean _

theorem lists_usageNumber (hclean : J.LooksUpCleanly) (cls usage : Ref) {getter : String}
    (hgetter : ¬ (Text.hasNul getter || Text.hasNul "()J") = true) :
    Lists (usageNumber cls usage getter : BeanM J Int) := by
  refine (lists_method hclean cls hgetter).bind fun get => ?_
  refine .called (by decide) fun value session => ?_
  exact (listed_check getter session).bind fun _ => lists_pure value

theorem lists_readUsage (hclean : J.LooksUpCleanly) (usage : Ref) :
    Lists (readUsage usage : BeanM J MemoryUsage) := by
  refine (lists_classNamed hclean (by decide)).bind fun cls => .withRef cls ?_
  refine (lists_usageNumber hclean cls usage (by decide)).bind fun initial => ?_
  refine (lists_usageNumber hclean cls usage (by decide)).bind fun used => ?_
  refine (lists_usageNumber hclean cls usage (by decide)).bind fun committed => ?_
  refine (lists_usageNumber hclean cls usage (by decide)).bind fun maximum => ?_
  exact lists_pure _

/-- A pool that has become invalid has no usage, and nothing is wrong with that. -/
theorem listed_validUsage (hclean : J.LooksUpCleanly) (name : String) (usage : Option Ref)
    (session : Session J) :
    Listed session ((validUsage name usage : BeanM J (Option PoolUsage)).finish session) := by
  cases usage with
  | none => exact (listed_check _ session).bind fun _ => lists_pure none
  | some ref =>
      refine .withRef ref ((listed_check _ session).bind fun _ => ?_)
      exact (lists_readUsage hclean ref).bind fun usage => lists_pure _

theorem lists_poolUsage (hclean : J.LooksUpCleanly) (hshown : J.ShowsCleanly) (pool : Ref) :
    Lists (poolUsage pool : BeanM J (Option PoolUsage)) := by
  refine (lists_classNamed hclean (by decide)).bind fun cls => .withRef cls ?_
  refine (lists_method hclean cls (by decide)).bind fun getName => ?_
  rw [← bind_assoc]
  refine Lists.bind (.obtained fun name => listed_returned name _) fun name => .withRef name ?_
  refine .readString hshown name (fun text => ?_) rfl
  refine (lists_method hclean cls (by decide)).bind fun getUsage => ?_
  exact .obtained fun usage => listed_validUsage hclean text usage

/-- However many pools the list is said to hold. -/
theorem lists_poolsFrom (hclean : J.LooksUpCleanly) (hshown : J.ShowsCleanly) (list : Ref)
    (get : J.Method) (remaining index : Nat) :
    Lists (poolsFrom list get remaining index : BeanM J (List PoolUsage)) := by
  induction remaining generalizing index with
  | zero => exact lists_pure []
  | succ remaining ih =>
      rw [poolsFrom, ← bind_assoc]
      refine Lists.bind (.obtained fun pool => listed_returned pool _) fun pool => ?_
      refine (Lists.withRef pool (lists_poolUsage hclean hshown pool)).bind fun usage => ?_
      exact (ih (index + 1)).bind fun later => lists_pure _

/-- Whatever the machine answers and however many pools it has, a listing makes no call while an
exception is pending, and it leaves one behind just if the machine refused the characters of a name
with an exception as its last answer. -/
theorem pools_disciplined (hclean : J.LooksUpCleanly) (hshown : J.ShowsCleanly)
    (session : Session J) (hpending : session.pending = false) :
    Listed session ((pools : BeanM J (List PoolUsage)).finish session) := by
  revert session
  change Lists pools
  refine (lists_classNamed hclean (by decide)).bind fun factory => .withRef factory ?_
  refine (lists_beanOf hclean factory (by decide)).bind fun list => .withRef list ?_
  refine (lists_classNamed hclean (by decide)).bind fun cls => .withRef cls ?_
  refine (lists_method hclean cls (by decide)).bind fun size => ?_
  refine (lists_method hclean cls (by decide)).bind fun get => ?_
  refine .called (by decide) fun count session => (listed_check _ session).bind fun _ => ?_
  exact lists_poolsFrom hclean hshown list get _ 0

/-- A machine with two pools that is out of memory once it has shown the name of the first. Its
state is the number of names that it was asked for. -/
def runsOutOfMemory : Machine where
  State := Nat
  Object := Unit
  Method := Unit
  answer call asked := match call with
    | .findClass _ | .newString _ => (⟨some (), false⟩, asked)
    | .methodId .. | .staticMethodId .. => (⟨some (), false⟩, asked)
    | .callObject .. | .callStaticObject .. => (⟨some (), false⟩, asked)
    | .callInt .. | .callLong .. => (⟨2, false⟩, asked)
    | .callVoid .. => (⟨(), false⟩, asked)
    | .stringChars _ => (if asked = 0 then ⟨some [0x45], false⟩ else ⟨none, true⟩, asked + 1)
  getEnvironment asked := ((0, true), asked)
  provides _ _ := true
  command _ asked := (.success, asked)
  deallocate _ asked := (.success, asked)
  loadedClasses asked := (⟨.success, 0, none⟩, asked)
  classSignature _ asked := (⟨.success, none⟩, asked)
  followReferences asked := .refused .notAvailable asked

theorem runsOutOfMemory_clean : runsOutOfMemory.LooksUpCleanly ∧ runsOutOfMemory.ShowsCleanly := by
  refine ⟨fun {shape} call asked hlookup _ => ?_, fun string asked hshown => ?_⟩
  · cases call with
    | findClass | newString | methodId | staticMethodId => rfl
    | _ => exact hlookup.elim
  · change Nat at asked
    cases asked with
    | zero => rfl
    | succ asked => exact absurd hshown Bool.false_ne_true

/-- The session with that machine before anything was asked. -/
def runsOutOfMemoryStart : Session runsOutOfMemory := .start (0 : Nat)

theorem pools_disciplined_out_of_memory :
    (runsOutOfMemory.LooksUpCleanly ∧ runsOutOfMemory.ShowsCleanly) ∧
      runsOutOfMemoryStart.pending = false ∧
      Listed runsOutOfMemoryStart (pools.finish runsOutOfMemoryStart) :=
  ⟨runsOutOfMemory_clean, rfl,
    pools_disciplined runsOutOfMemory_clean.1 runsOutOfMemory_clean.2 runsOutOfMemoryStart rfl⟩

/-- A listing may well leave an exception behind, though none was pending before it, and then the
first call for a heap dump is made while it is pending. -/
theorem pools_leaves_exception :
    (runsOutOfMemory.LooksUpCleanly ∧ runsOutOfMemory.ShowsCleanly) ∧
      runsOutOfMemoryStart.pending = false ∧
      (pools.finish runsOutOfMemoryStart).1 = .error (.failed (.java .unreadablePoolName)) ∧
      (pools.finish runsOutOfMemoryStart).2.pending = true ∧
      (pools.finish runsOutOfMemoryStart).2.illegalCalls = 0 ∧
      ((dumpHeap []).finish (pools.finish runsOutOfMemoryStart).2).2.illegalCalls = 4 := by
  exact ⟨runsOutOfMemory_clean, rfl, by decide +kernel, by decide +kernel, by decide +kernel,
    by decide +kernel⟩

end Beans

end ExhaustionGuard.Jvm
