import ExhaustionGuard.Jvm.Host
import ExhaustionGuard.Proofs.Action.HeapDump
import ExhaustionGuard.Proofs.Jvm.Conduct
import ExhaustionGuard.Proofs.Text.Modified

/-! # The file that a dump goes to

A path is handed to the machine as plain UTF-8, and once. The machine makes a string
of it, and the dump is asked for with that very string. What file this is depends on
how the machine reads the bytes: it is the path just if no character of it needs a
pair of surrogates.
-/

namespace ExhaustionGuard

namespace Jvm

variable {J : Machine} {α β : Type}

/-! ## Events that name nothing -/

/-- The call makes no string, and tells nothing to a method that returns nothing. -/
def Call.IsNeutral {Object Method : Type} {shape : Shape} : Call Object Method shape → Prop
  | .newString _ | .callVoid .. => False
  | _ => True

def SessionEvent.IsNeutral {Object Method : Type} : SessionEvent Object Method → Prop
  | .called _ call _ => call.IsNeutral
  | _ => True

/-- Neutral events lead from one session to another. -/
def Drift (before after : Session J) : Prop :=
  ∃ made, after.trace = before.trace ++ made ∧ after.state = J.hearAll before.state made ∧
    ∀ event ∈ made, event.IsNeutral

namespace Drift

variable {before between after : Session J}

theorem refl (session : Session J) : Drift session session :=
  ⟨[], (List.append_nil _).symm, rfl, List.forall_mem_nil _⟩

theorem trans (hfirst : Drift before between) (hsecond : Drift between after) :
    Drift before after := by
  obtain ⟨first, htrace, hstate, hneutral⟩ := hfirst
  obtain ⟨second, hmore, hlater, hrest⟩ := hsecond
  refine ⟨first ++ second, ?_, ?_, List.forall_mem_append.mpr ⟨hneutral, hrest⟩⟩
  · rw [hmore, htrace, List.append_assoc]
  · rw [hlater, hstate, Machine.hearAll_append]

theorem of_event {event : SessionEvent J.Object J.Method}
    (htrace : after.trace = before.trace ++ [event])
    (hstate : after.state = J.hear before.state event) (hneutral : event.IsNeutral) :
    Drift before after :=
  ⟨[event], htrace, hstate, List.forall_mem_singleton.mpr hneutral⟩

theorem call {shape : Shape} {call : Session J → Call J.Object J.Method shape}
    (hneutral : ∀ session, (call session).IsNeutral) (session : Session J) :
    Drift session (SessionM.call call session).2 :=
  .of_event rfl rfl (hneutral session)

theorem obtain {object : Session J → Call J.Object J.Method .object}
    (hneutral : ∀ session, (object session).IsNeutral) (session : Session J) :
    Drift session (SessionM.obtain object session).2 := by
  rw [run_obtain]
  split
  next => exact .call hneutral session
  next found _ => exact (call hneutral session).trans (.of_event rfl rfl trivial)

theorem deleteRef (session : Session J) (ref : Option Ref) :
    Drift session (SessionM.deleteRef ref session).2 := by
  cases ref with
  | none => exact .refl session
  | some ref => exact .of_event rfl rfl trivial

theorem relieved (session : Session J) : Drift session session.relieved := by
  have hdescribed : Drift session (session.note .described) := .of_event rfl rfl trivial
  exact hdescribed.trans (.of_event rfl rfl trivial)

end Drift

/-- An operation of neutral events only, however it ends. -/
def IsNeutral (operation : Beans.BeanM J α) : Prop :=
  ∀ session : Session J, Drift session (operation.finish session).2

theorem isNeutral_pure (value : α) : IsNeutral (pure value : Beans.BeanM J α) :=
  fun session => .refl session

theorem isNeutral_fail (error : HostError) : IsNeutral (HostM.fail error : Beans.BeanM J α) :=
  fun session => .refl session

theorem IsNeutral.bind {first : Beans.BeanM J α} {next : α → Beans.BeanM J β}
    (hfirst : IsNeutral first) (hnext : ∀ value, IsNeutral (next value)) :
    IsNeutral (first >>= next) := by
  intro session
  refine HostM.finish_bind_state (Drift session) (hfirst session) fun value after _ hbetween => ?_
  exact hbetween.trans (hnext value after)

theorem isNeutral_inSession {step : SessionM J α}
    (hstep : ∀ session, Drift session (step session).2) : IsNeutral (Beans.inSession step) :=
  hstep

namespace Beans

theorem isNeutral_takeException :
    IsNeutral (discard (inSession SessionM.takeException) : BeanM J Unit) := by
  intro session
  rw [finish_takeException]
  split
  · exact .relieved session
  · exact .refl session

theorem isNeutral_check (what : String) : IsNeutral (check what : BeanM J Unit) := by
  intro session
  rw [finish_check]
  split
  · exact .relieved session
  · exact .refl session

theorem isNeutral_returned (object : Option Ref) (what : String) :
    IsNeutral (returned object what : BeanM J Ref) := by
  intro session
  rw [finish_returned]
  split
  · exact (Drift.relieved session).trans (.deleteRef _ object)
  · cases object <;> exact .refl session

/-- A look-up that found nothing ends with a fault. -/
theorem isNeutral_lookUp {step : SessionM J (Option α)}
    (hstep : ∀ session, Drift session (step session).2) {next : Option α → BeanM J α}
    {reason : JavaFault} (hfound : ∀ value, next (some value) = pure value)
    (hmissing : next none = do
      discard (inSession SessionM.takeException)
      fault reason) :
    IsNeutral (inSession step >>= next) := by
  refine (isNeutral_inSession hstep).bind fun found => ?_
  cases found with
  | some value =>
      rw [hfound]
      exact isNeutral_pure value
  | none =>
      rw [hmissing]
      exact isNeutral_takeException.bind fun _ => isNeutral_fail _

theorem isNeutral_classNamed (name : String) : IsNeutral (classNamed name : BeanM J Ref) := by
  refine isNeutral_lookUp (fun session => ?_) (fun _ => rfl) rfl
  rw [SessionM.findClass]
  split
  · exact .refl session
  · refine .obtain ?_ session
    exact fun _ => trivial

theorem isNeutral_method (cls : Ref) (name signature : String) :
    IsNeutral (method cls name signature : BeanM J J.Method) := by
  refine isNeutral_lookUp (fun session => ?_) (fun _ => rfl) rfl
  rw [SessionM.methodId]
  split
  · exact .refl session
  · refine .call ?_ session
    exact fun _ => trivial

theorem isNeutral_staticMethod (cls : Ref) (name signature : String) :
    IsNeutral (staticMethod cls name signature : BeanM J J.Method) := by
  refine isNeutral_lookUp (fun session => ?_) (fun _ => rfl) rfl
  rw [SessionM.staticMethodId]
  split
  · exact .refl session
  · refine .call ?_ session
    exact fun _ => trivial

end Beans

/-! ## How a dump went -/

/-- How a dump went to a file of which these bytes are the name, from a state of the machine on. -/
inductive DumpCourse (J : Machine) (name : Text.Bytes) (state : J.State) :
    List (SessionEvent J.Object J.Method) → Except HostFault Unit → Prop
  /-- The name was never handed over. -/
  | unnamed {made : List (SessionEvent J.Object J.Method)} {fault : HostFault} :
      (∀ event ∈ made, event.IsNeutral) → DumpCourse J name state made (.error fault)
  /-- The machine made no string of it. -/
  | unmade {early late : List (SessionEvent J.Object J.Method)} {pending : Bool}
      {fault : HostFault} :
      (∀ event ∈ early, event.IsNeutral) → (∀ event ∈ late, event.IsNeutral) →
      (J.answer (.newString name) (J.hearAll state early)).1.value = none →
      DumpCourse J name state (early ++ .called .object (.newString name) pending :: late)
        (.error fault)
  /-- The dump of all live objects was asked for, with the string that the machine made of it. -/
  | asked {early late : List (SessionEvent J.Object J.Method)} {pending pendingThen : Bool}
      {ref : Ref} {file : J.Object} {bean : Handle J.Object} {dump : J.Method}
      {ending : Except HostFault Unit} :
      (∀ event ∈ early, event.IsNeutral) → (∀ event ∈ late, event.IsNeutral) →
      (J.answer (.newString name) (J.hearAll state early)).1.value = some file →
      DumpCourse J name state (early ++ .called .object (.newString name) pending ::
        .obtained ref :: .called .nothing (.callVoid bean dump [.object (.live file),
          .boolean true]) pendingThen :: late) ending

/-- What a session went through while it dumped the heap. -/
def DumpsTo (name : Text.Bytes) (before : Session J)
    (result : Except HostFault Unit × Session J) : Prop :=
  ∃ made, result.2.trace = before.trace ++ made ∧ DumpCourse J name before.state made result.1

namespace DumpCourse

variable {name : Text.Bytes} {state : J.State} {made : List (SessionEvent J.Object J.Method)}
  {ending : Except HostFault Unit}

theorem after_neutral {before : List (SessionEvent J.Object J.Method)}
    (hbefore : ∀ event ∈ before, event.IsNeutral)
    (hcourse : DumpCourse J name (J.hearAll state before) made ending) :
    DumpCourse J name state (before ++ made) ending := by
  cases hcourse with
  | unnamed hneutral => exact .unnamed (List.forall_mem_append.mpr ⟨hbefore, hneutral⟩)
  | unmade hearly hlate hnull =>
      rw [← Machine.hearAll_append] at hnull
      rw [← List.append_assoc]
      exact .unmade (List.forall_mem_append.mpr ⟨hbefore, hearly⟩) hlate hnull
  | asked hearly hlate hfile =>
      rw [← Machine.hearAll_append] at hfile
      rw [← List.append_assoc]
      exact .asked (List.forall_mem_append.mpr ⟨hbefore, hearly⟩) hlate hfile

theorem before_neutral {after : List (SessionEvent J.Object J.Method)}
    (hafter : ∀ event ∈ after, event.IsNeutral) (hcourse : DumpCourse J name state made ending) :
    DumpCourse J name state (made ++ after) ending := by
  cases hcourse with
  | unnamed hneutral => exact .unnamed (List.forall_mem_append.mpr ⟨hneutral, hafter⟩)
  | unmade hearly hlate hnull =>
      rw [List.append_assoc, List.cons_append]
      exact .unmade hearly (List.forall_mem_append.mpr ⟨hlate, hafter⟩) hnull
  | asked hearly hlate hfile =>
      rw [List.append_assoc]
      exact .asked hearly (List.forall_mem_append.mpr ⟨hlate, hafter⟩) hfile

end DumpCourse

namespace DumpsTo

variable {name : Text.Bytes} {before between : Session J}
  {result : Except HostFault Unit × Session J}

theorem after_drift (hfirst : Drift before between) (hrest : DumpsTo name between result) :
    DumpsTo name before result := by
  obtain ⟨made, htrace, hstate, hneutral⟩ := hfirst
  obtain ⟨more, hmore, hcourse⟩ := hrest
  rw [hstate] at hcourse
  refine ⟨made ++ more, ?_, hcourse.after_neutral hneutral⟩
  rw [hmore, htrace, List.append_assoc]

theorem of_fault (fault : HostFault) : DumpsTo name before (.error fault, before) :=
  ⟨[], (List.append_nil _).symm, .unnamed (List.forall_mem_nil _)⟩

/-- The first part names nothing, and the dump is up to what follows. -/
theorem bind {first : Beans.BeanM J α} {next : α → Beans.BeanM J Unit} (hfirst : IsNeutral first)
    (hnext : ∀ value after, DumpsTo name after ((next value).finish after)) :
    DumpsTo name before ((first >>= next).finish before) := by
  have hneutral := hfirst before
  rw [HostM.finish_bind]
  cases hrun : first.finish before with
  | mk ending between =>
      rw [hrun] at hneutral
      cases ending with
      | error fault => exact .after_drift hneutral (.of_fault fault)
      | ok value => exact .after_drift hneutral (hnext value between)

theorem withRef {use : Beans.BeanM J Unit} {opened : Session J} (ref : Ref)
    (huse : DumpsTo name before (use.finish opened)) :
    DumpsTo name before ((Beans.withRef ref use).finish opened) := by
  obtain ⟨made, htrace, hcourse⟩ := huse
  refine ⟨made ++ [.deleted ref], ?_, ?_⟩
  · change (use.finish opened).2.trace ++ [.deleted ref] = _
    rw [htrace, List.append_assoc]
  · exact hcourse.before_neutral (List.forall_mem_singleton.mpr trivial)

end DumpsTo

namespace Beans

/-- The dump is asked for at once, and then an exception may be taken off. -/
theorem trace_dumpTo (bean : Ref) (dump : J.Method) (file : Ref) (session : Session J) :
    ∃ late, (∀ event ∈ late, event.IsNeutral) ∧
      ((dumpTo bean dump file).finish session).2.trace = session.trace ++
        .called .nothing (.callVoid (session.handle (some bean)) dump
          [.object (session.handle (some file)), .boolean true]) session.pending :: late := by
  rw [dumpTo, finish_inSession_bind]
  obtain ⟨late, htrace, -, hneutral⟩ := isNeutral_check "HotSpotDiagnosticMXBean.dumpHeap"
    (SessionM.call (fun session => .callVoid (session.handle (some bean)) dump
      [.object (session.handle (some file)), .boolean true]) session).2
  refine ⟨late, hneutral, htrace.trans ?_⟩
  exact List.append_assoc _ _ _

section Strings

variable {path : String} {ready : Session J}

/-- Without a string there is nothing left but to take off an exception. -/
theorem dumpsTo_of_no_string
    (hnull : (J.answer (.newString (Text.encode path)) ready.state).1.value = none) :
    DumpsTo (Text.encode path) ready
      ((discard (inSession SessionM.takeException) >>= fun _ =>
        fault .noPathString : BeanM J Unit).finish
          (SessionM.call (fun _ => .newString (Text.encode path)) ready).2) := by
  obtain ⟨late, htrace, -, hneutral⟩ :=
    isNeutral_takeException (SessionM.call (fun _ => .newString (Text.encode path)) ready).2
  rw [finish_takeException] at htrace
  rw [HostM.finish_bind, finish_takeException]
  refine ⟨[] ++ .called .object (.newString (Text.encode path)) ready.pending :: late, ?_,
    .unmade (List.forall_mem_nil _) hneutral hnull⟩
  exact htrace.trans (List.append_assoc _ _ _)

/-- The newest reference stands for the string, so the dump is asked for with it. -/
theorem dumpsTo_of_string {file : J.Object}
    (hfile : (J.answer (.newString (Text.encode path)) ready.state).1.value = some file)
    (bean : Ref) (dump : J.Method) :
    DumpsTo (Text.encode path) ready
      ((dumpTo bean dump ready.refs.length).finish
        ((SessionM.call (fun _ => .newString (Text.encode path)) ready).2.addRef file)) := by
  obtain ⟨late, hneutral, htrace⟩ := trace_dumpTo bean dump ready.refs.length
    ((SessionM.call (fun _ => .newString (Text.encode path)) ready).2.addRef file)
  have hhandle : ((SessionM.call (fun _ => .newString (Text.encode path)) ready).2.addRef
      file).handle (some ready.refs.length) = .live file := Session.handle_addRef _ file
  have hmade : ((SessionM.call (fun _ => .newString (Text.encode path)) ready).2.addRef
      file).trace = ready.trace ++ [.called .object (.newString (Text.encode path)) ready.pending,
        .obtained ready.refs.length] := List.append_assoc _ _ _
  rw [hhandle, hmade, List.append_assoc] at htrace
  exact ⟨_, htrace, .asked (List.forall_mem_nil _) hneutral hfile⟩

end Strings

theorem dumpsTo_dumpWith (cls bean : Ref) (path : String) (session : Session J) :
    DumpsTo (Text.encode path) session ((dumpWith cls bean path).finish session) := by
  refine .bind (isNeutral_method cls _ _) fun dump ready => ?_
  rw [SessionM.newString, finish_inSession_bind]
  by_cases hnul : Text.hasNul path = true
  · rw [if_pos hnul]
    exact .bind isNeutral_takeException fun _ _ => .of_fault _
  rw [if_neg hnul, run_obtain]
  cases hfile : (J.answer (.newString (Text.encode path)) ready.state).1.value with
  | none => exact dumpsTo_of_no_string hfile
  | some file => exact .withRef _ (dumpsTo_of_string hfile bean dump)

theorem dumpsTo_dumpHeap (path : Text.Bytes) (session : Session J) :
    DumpsTo path session ((dumpHeap path).finish session) := by
  rw [dumpHeap]
  split
  next => exact .of_fault _
  next hformed =>
    have hpath : Text.encode (Text.decodeLossy path) = path := by
      simpa [Text.isWellFormed] using hformed
    refine .bind (isNeutral_classNamed _) fun factory opened => .withRef factory ?_
    refine .bind (isNeutral_staticMethod _ _ _) fun get _ => ?_
    refine .bind (isNeutral_classNamed _) fun cls found => .withRef cls ?_
    have hbean : IsNeutral (inSession (SessionM.obtain fun session =>
        .callStaticObject (session.handle (some factory)) get
          [.object (session.handle (some cls))]) : BeanM J (Option Ref)) :=
      isNeutral_inSession (.obtain fun _ => trivial)
    refine .bind hbean fun bean _ => ?_
    refine .bind (isNeutral_returned bean _) fun ref after => .withRef ref ?_
    have hdumps := dumpsTo_dumpWith cls ref (Text.decodeLossy path) after
    rwa [hpath] at hdumps

end Beans

end Jvm

/-! ## Dumps that are reported -/

namespace Action

variable {σ κ : Type}

theorem DumpAccount.of_mem_dumps {dumpHeap : String → HostM σ Unit} {path reported : String}
    {Known : List (List String) → Prop} {before : World σ κ} {trace : List Event} {host : σ}
    (haccount : DumpAccount dumpHeap path Known before trace host)
    (hreported : reported ∈ Trace.dumps trace) :
    reported = path ∧ (dumpHeap path).finish before.host = (.ok (), host) ∧
      Trace.bytes trace <+: Text.encode (heapHeading ++ announcement path) := by
  cases haccount with
  | unasked hidle _ =>
      rw [hidle.2] at hreported
      exact absurd hreported List.not_mem_nil
  | @refused ready _ _ hprepared _ =>
      have hnone : Trace.dumps (ready ++ [.dumpRequested path]) = [] := by
        rw [Trace.dumps, List.filterMap_append]
        exact List.append_eq_nil_iff.mpr ⟨hprepared.idle.2, rfl⟩
      rw [hnone] at hreported
      exact absurd hreported List.not_mem_nil
  | @granted ready later _ hprepared hfinish hidle hbytes =>
      have hone : Trace.dumps (ready ++ .dumpRequested path :: .dumped path :: later) = [path] := by
        rw [Trace.dumps, List.filterMap_append]
        change Trace.dumps ready ++ path :: Trace.dumps later = [path]
        rw [hprepared.idle.2, hidle.2, List.nil_append]
      rw [hone] at hreported
      refine ⟨List.mem_singleton.mp hreported, hfinish, ?_⟩
      rw [Trace.bytes_append, hprepared.bytes, Text.encode_append]
      exact (List.prefix_append_right_inj _).mpr hbytes

/-- A dump that is reported has succeeded, and nothing is written of another one. -/
theorem finish_of_mem_dumps (around : Surroundings σ κ) (template : String) (event : Exhaustion)
    (world : World σ κ) {path : String} :
    let run := (askHeapDump around template event).run world
    path ∈ Trace.dumps run.trace →
      (around.host.dumpHeap path).finish world.host = (.ok (), run.state.host) ∧
        Trace.bytes run.trace <+: Text.encode (heapHeading ++ announcement path) := by
  intro run hreported
  by_cases hthreads : event.isThreads = true
  · have hnone : Trace.dumps run.trace = [] := by
      dsimp only [run]
      rw [askHeapDump, if_pos hthreads]
      rfl
    rw [hnone] at hreported
    exact absurd hreported List.not_mem_nil
  rw [Bool.not_eq_true] at hthreads
  cases hpath : DumpPath.resolve world.system template world.system.now with
  | error error =>
      have hnone : Trace.dumps run.trace = [] := by
        dsimp only [run]
        rw [askHeapDump, if_neg (by rw [hthreads]; exact Bool.false_ne_true), Effect.run_get_bind]
        dsimp only
        rw [hpath]
        rfl
      rw [hnone] at hreported
      exact absurd hreported List.not_mem_nil
  | ok resolved =>
      -- nothing needs to be known of the directory that the dump is in
      have haccount : DumpAccount around.host.dumpHeap resolved (fun _ => True) world _ _ :=
        dumpAccount_dumpStages around resolved fun _ => trivial
      rw [← run_askHeapDump_of_resolve around hthreads hpath] at haccount
      obtain ⟨rfl, hfinish, hbytes⟩ := haccount.of_mem_dumps hreported
      exact ⟨hfinish, hbytes⟩

end Action

namespace Jvm

variable {J : Machine}

/-! ## Texts that reach the machine -/

/-- What becomes of a text of which a Java string is to be made, and what is read in its bytes. -/
structure HandsOver (text : String) (before : Session J) (result : Option Ref × Session J) :
    Prop where
  /-- A text with a NUL in it is kept back, and the machine is asked nothing. -/
  kept : Text.hasNul text = true → result = (none, before)
  /-- Any other text is handed over once. -/
  handed : Text.hasNul text = false → ∃ late, result.2.trace = before.trace ++
    .called .object (.newString (Text.encode text)) before.pending :: late ∧
      ∀ event ∈ late, ∃ ref, event = .obtained ref
  /-- The bytes are the encoding that the machine expects just if no character is NUL or takes
  surrogates. -/
  expected : Text.encode text = Text.Modified.encode text ↔ ∀ c ∈ text.toList, Text.IsBasic c
  /-- Just then they are read as the text, and they are never read as another one. -/
  read : ∀ units, Text.Modified.Reads (Text.encode text) units ↔
    (∀ c ∈ text.toList, Text.IsBasic c) ∧ units = Text.utf16 text

theorem handsOver_newString (text : String) (session : Session J) :
    HandsOver text session (SessionM.newString text session) := by
  refine ⟨fun hnul => ?_, fun hnul => ?_, Text.encode_eq_modified_iff, fun _ =>
    Text.reads_utf8_iff⟩
  · rw [SessionM.newString, if_pos hnul]
    rfl
  · rw [SessionM.newString, if_neg (by rw [hnul]; exact Bool.false_ne_true), run_obtain]
    split
    next => exact ⟨[], rfl, List.forall_mem_nil _⟩
    next found _ =>
      exact ⟨[.obtained session.refs.length], List.append_assoc _ _ _,
        List.forall_mem_singleton.mpr ⟨_, rfl⟩⟩

/-- A dump that is reported was asked for with the string that the machine made of the bytes of the
reported path. -/
structure DumpsReported (path : String) (before after : Session J) (output : Text.Bytes) :
    Prop where
  course : ∃ made, after.trace = before.trace ++ made ∧
    DumpCourse J (Text.encode path) before.state made (.ok ())
  /-- The machine reads the path in these bytes just if no character of it takes surrogates. -/
  file : ∀ units, Text.Modified.Reads (Text.encode path) units ↔
    (∀ c ∈ path.toList, Text.IsBasic c) ∧ units = Text.utf16 path
  /-- Nothing is written but the heading and that the dump was written to this path. -/
  output : output <+: Text.encode (Action.heapHeading ++ Action.announcement path)

theorem dumpsReported_of_finish {path : String} {before after : Session J} {output : Text.Bytes}
    (hfinish : ((host : Host (Session J)).dumpHeap path).finish before = (.ok (), after))
    (houtput : output <+: Text.encode (Action.heapHeading ++ Action.announcement path)) :
    DumpsReported path before after output := by
  have hhost : (host : Host (Session J)).dumpHeap path = Beans.dumpHeap (Text.encode path) := by
    rw [host]
  have hdumps := Beans.dumpsTo_dumpHeap (Text.encode path) before
  rw [← hhost, hfinish] at hdumps
  exact ⟨hdumps, fun _ => Text.reads_utf8_iff, houtput⟩

/-- A text without NUL is handed over as plain UTF-8; the machine reads it back just if no character
of it takes surrogates. A dump that is reported at a path was asked for with the string
that the machine made of this path. -/
theorem file_handed_over {κ : Type} (sink : Sink κ) (template : String) (event : Exhaustion)
    (world : World (Session J) κ) (text : String) (session : Session J) :
    let run := (Action.askHeapDump ⟨host, sink⟩ template event).run world
    HandsOver text session (SessionM.newString text session) ∧
      (∀ units, Text.Modified.Reads (Text.Modified.encode text) units ↔
        units = Text.utf16 text) ∧
      (∀ other, Text.utf16 other = Text.utf16 text → other = text) ∧
      ∀ path ∈ Trace.dumps run.trace,
        DumpsReported path world.host run.state.host (Trace.bytes run.trace) := by
  refine ⟨handsOver_newString text session, fun _ => Text.Modified.reads_encode_iff, fun _ =>
    Text.utf16_injective, fun path hpath => ?_⟩
  obtain ⟨hfinish, houtput⟩ :=
    Action.finish_of_mem_dumps ⟨host, sink⟩ template event world hpath
  exact dumpsReported_of_finish hfinish houtput

/-- A machine whose strings are the bytes they were made of, and which finds and does everything. -/
def echoesBytes : Machine where
  State := Unit
  Object := Text.Bytes
  Method := Unit
  answer call state := (match call with
    | .newString bytes => ⟨some bytes, false⟩
    | .findClass _ | .callObject .. | .callStaticObject .. => ⟨some [], false⟩
    | .methodId .. | .staticMethodId .. => ⟨some (), false⟩
    | .callInt .. | .callLong .. => ⟨0, false⟩
    | .callVoid .. => ⟨(), false⟩
    | .stringChars _ => ⟨none, false⟩, state)
  getEnvironment state := ((0, true), state)
  provides _ _ := true
  command _ state := (.success, state)
  deallocate _ state := (.success, state)
  loadedClasses state := (⟨.success, 0, none⟩, state)
  classSignature _ state := (⟨.success, none⟩, state)
  followReferences state := .refused .notAvailable state

/-- A session in which nothing was written yet. -/
def echoesBytesStart : Session echoesBytes := .start ()

/-- A world whose machine is this one. -/
def echoesBytesWorld : World (Session echoesBytes) LimitedSink :=
  ⟨echoesBytesStart, .unlimited, Action.served.system⟩

theorem file_handed_over_echoed :
    let run := (Action.askHeapDump ⟨host, LimitedSink.operations⟩ "/tmp/😀.hprof" .javaHeap).run
      echoesBytesWorld
    "/tmp/😀.hprof" ∈ Trace.dumps run.trace ∧
      HandsOver "/tmp/😀.hprof" echoesBytesStart
        (SessionM.newString "/tmp/😀.hprof" echoesBytesStart) ∧
      DumpsReported "/tmp/😀.hprof" echoesBytesWorld.host run.state.host
        (Trace.bytes run.trace) := by
  have hall := file_handed_over LimitedSink.operations "/tmp/😀.hprof" .javaHeap echoesBytesWorld
    "/tmp/😀.hprof" echoesBytesStart
  have hdumped : "/tmp/😀.hprof" ∈ Trace.dumps ((Action.askHeapDump ⟨host,
    LimitedSink.operations⟩ "/tmp/😀.hprof" .javaHeap).run echoesBytesWorld).trace := by
      decide +kernel
  exact ⟨hdumped, hall.1, hall.2.2.2 _ hdumped⟩

/-- Above U+FFFF the machine is handed four bytes that are no encoding of anything, and not the two
surrogates. -/
theorem newString_beyond_basic :
    Text.hasNul "😀" = false ∧
      (SessionM.newString "😀" echoesBytesStart).2.trace =
        [.called .object (.newString [0xF0, 0x9F, 0x98, 0x80]) false, .obtained 0] ∧
      Text.Modified.encode "😀" = [0xED, 0xA0, 0xBD, 0xED, 0xB8, 0x80] ∧
      ∀ units, ¬ Text.Modified.Reads [0xF0, 0x9F, 0x98, 0x80] units := by
  refine ⟨by decide, by rfl, by decide, fun units => ?_⟩
  exact Text.Modified.not_reads_of_first (by decide)

end Jvm

end ExhaustionGuard
