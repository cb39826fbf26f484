import ExhaustionGuard.Pipeline
import ExhaustionGuard.Proofs.Action.Emissions
import ExhaustionGuard.Proofs.Effect.Signals

/-! # What a run of a pipeline lets through

No action keeps another from running, and none ends the run, however it stops.
The signals of a run are those of its actions; the last one is always the
final signal, which is sent once.
-/

namespace ExhaustionGuard

open Effect

variable {σ κ α : Type}

/-! ## The signals of an action -/

/-- What may leave no signal raises none. -/
theorem raises_of_emits {effect : WorldEffect σ κ α} {allowed : Event → Prop}
    (hemits : effect.Emits allowed) (hnone : ∀ signal refusal, ¬ allowed (.raised signal refusal)) :
    effect.Raises [] := by
  refine .of_trace fun world => List.filterMap_eq_nil_iff.mpr fun event hevent => ?_
  have hallowed := hemits world event hevent
  cases event with
  | raised signal refusal => exact absurd hallowed (hnone signal refusal)
  | _ => rfl

namespace Action

variable (around : Surroundings σ κ)

theorem raises_askThreadDump (delay : Nat) : (askThreadDump around delay).Raises [.quit] := by
  have hsilent := closed_emits around fun event => Trace.signal? event = none
  have hbanner : (around.banner "Thread Dump").Raises [] :=
    raises_of_emits (hsilent.banner (fun _ => rfl) _) fun _ _ => Option.some_ne_none _
  have hflush : around.flush.Raises [] :=
    raises_of_emits (hsilent.flush fun _ => rfl) fun _ _ => Option.some_ne_none _
  have hraise : (World.raise .quit : WorldEffect σ κ Unit).Raises [.quit] := fun world => by
    rw [World.run_raise]
    exact .refl _
  exact hbanner.bind fun _ => hflush.bind fun _ => hraise.bind fun _ => raises_log _

/-- The lines that the final signal is preceded by, after a flush with such an outcome. -/
def partingLines (refusal : Option OutputError) : List LogLine :=
  (match refusal with
    | some error => [⟨.warn, .kill, "flushing output failed: " ++ error.message, []⟩]
    | none => []) ++
  [⟨.warn, .kill, "jvmkill is killing current process", []⟩]

/-- The output is flushed, and whatever came of it, the signal is raised once and last. -/
theorem trace_sendKill (signal : Signal) (world : World σ κ) :
    ((sendKill around signal).run world).trace =
      .flushed (around.sink.flush world.sink).1.isNone ::
        (partingLines (around.sink.flush world.sink).1).map .logged ++
          [.raised signal (world.system.refusal signal)] := by
  have hsend : ∀ world : World σ κ, ((do
      Effect.log ⟨.warn, .kill, "jvmkill is killing current process", []⟩
      World.raise signal : WorldEffect σ κ Unit).run world).trace =
        [.logged ⟨.warn, .kill, "jvmkill is killing current process", []⟩,
          .raised signal (world.system.refusal signal)] := by
    intro world
    rw [run_bind_of_ok rfl, World.run_raise]
    rfl
  have hflushed := around.run_tryFlush world
  rw [sendKill, run_bind_of_ok (by rw [hflushed]), hflushed]
  -- output that cannot be flushed costs one more log line, not the signal
  cases (around.sink.flush world.sink).1 with
  | none => exact congrArg (_ :: ·) (hsend _)
  | some error => exact congrArg (_ :: _ :: ·) (hsend _)

/-- The final signal is sent exactly once, whatever the output does. -/
theorem signals_sendKill (signal : Signal) (world : World σ κ) :
    Trace.signals ((sendKill around signal).run world).trace = [signal] := by
  rw [trace_sendKill, Trace.signals_append, ← List.singleton_append, Trace.signals_append,
    Trace.signals_logged]
  rfl

/-- The signals that an action of the agent sends. -/
def ownSignals : Action σ κ → List Signal
  | threadDump _ => [.quit]
  | kill signal => [signal]
  | _ => []

theorem raises_act {action : Action σ κ} (hplain : action.IsPlain around) (event : Exhaustion) :
    (action.act around event).Raises action.ownSignals := by
  cases action with
  | threadDump delay => exact raises_askThreadDump around delay
  | kill signal =>
      intro world
      rw [ownSignals, ← signals_sendKill around signal world]
      rfl
  -- the events that the others may leave are no signals
  | _ => exact raises_of_emits (emits_act around event hplain) fun _ _ hmay => hmay

theorem isBuiltIn_afterwards {action : Action σ κ} (hbuiltIn : action.IsBuiltIn) :
    action.afterwards.IsBuiltIn := by
  cases action <;> exact hbuiltIn

@[simp]
theorem ownSignals_afterwards (action : Action σ κ) :
    action.afterwards.ownSignals = action.ownSignals := by
  cases action <;> rfl

end Action

namespace Pipeline

variable (around : Surroundings σ κ) (event : Exhaustion)

theorem ending_guarded {ω : Type} (name : String) (effect : Effect ω Unit) (state : ω) :
    ((guarded name effect).run state).ending = .ok () := by
  unfold guarded Effect.run
  dsimp only
  split
  next hok => exact hok
  next => rfl

theorem signals_guarded {ω : Type} (name : String) (effect : Effect ω Unit) (state : ω) :
    Trace.signals ((guarded name effect).run state).trace =
      Trace.signals (effect.run state).trace := by
  unfold guarded Effect.run
  dsimp only
  split
  next => rfl
  next => exact (Trace.signals_append _ _).trans (List.append_nil _)

/-- An action is announced, and its failure goes no further. -/
theorem run_runAction (action : Action σ κ) (world : World σ κ) :
    (runAction around event action).run world =
      let acted := (guarded action.name (action.act around event)).run world
      ⟨acted.ending, acted.state, .logged (runningLine action.name) :: acted.trace⟩ :=
  run_bind_of_ok rfl _

theorem ending_runAction (action : Action σ κ) (world : World σ κ) :
    ((runAction around event action).run world).ending = .ok () := by
  rw [run_runAction]
  exact ending_guarded _ _ _

theorem signals_runAction (action : Action σ κ) (world : World σ κ) :
    Trace.signals ((runAction around event action).run world).trace =
      Trace.signals ((action.act around event).run world).trace := by
  rw [run_runAction]
  exact signals_guarded _ _ _

theorem ending_forM_runAction (actions : List (Action σ κ)) (world : World σ κ) :
    ((actions.forM (runAction around event)).run world).ending = .ok () := by
  induction actions generalizing world with
  | nil => rfl
  | cons action rest ih =>
      have hcons := run_bind_of_ok (ending_runAction around event action world)
        fun _ => rest.forM (runAction around event)
      exact (congrArg Run.ending hcons).trans (ih _)

theorem raises_forM_plain {actions : List (Action σ κ)}
    (hplain : ∀ action ∈ actions, action.IsPlain around) :
    (actions.forM (runAction around event)).Raises (actions.flatMap Action.ownSignals) := by
  induction actions with
  | nil => exact raises_pure ()
  | cons action rest ih =>
      have hfirst : (runAction around event action).Raises action.ownSignals := by
        intro world
        rw [signals_runAction]
        exact Action.raises_act around (hplain action List.mem_cons_self) event world
      rw [List.flatMap_cons]
      refine hfirst.bind fun _ => ih fun other hother => ?_
      exact hplain other (List.mem_cons_of_mem _ hother)

theorem raises_forM_runAction {actions : List (Action σ κ)}
    (hbuiltIn : ∀ action ∈ actions, action.IsBuiltIn) :
    (actions.forM (runAction around event)).Raises (actions.flatMap Action.ownSignals) :=
  raises_forM_plain around event fun action haction => .inl (hbuiltIn action haction)

/-- All actions run, then the final signal is sent in the world that they leave. -/
theorem run_runAll (pipeline : Pipeline σ κ) (world : World σ κ) :
    (runAll around pipeline event).run world =
      let acted := (pipeline.actions.forM (runAction around event)).run world
      let killed := (runAction around event (.kill pipeline.signal)).run acted.state
      ⟨.ok (), killed.state, acted.trace ++ killed.trace⟩ := by
  have hkill := ending_runAction around event (.kill pipeline.signal)
    ((pipeline.actions.forM (runAction around event)).run world).state
  rw [runAll, run_bind_of_ok (ending_forM_runAction around event pipeline.actions world)]
  exact congrArg (fun ending => Run.mk ending _ _) hkill

theorem signals_runAction_kill (signal : Signal) (world : World σ κ) :
    Trace.signals ((runAction around event (.kill signal)).run world).trace = [signal] :=
  (signals_runAction around event _ _).trans (Action.signals_sendKill around signal world)

theorem isBuiltIn_ofOptions (options : Options) :
    ∀ action ∈ (ofOptions options : Pipeline σ κ).actions, action.IsBuiltIn := by
  intro action haction
  simp only [ofOptions, List.mem_append] at haction
  rcases haction with ((hhistogram | hpools) | hthreads) | hdump
  · split at hhistogram <;> simp_all [Action.IsBuiltIn]
  · split at hpools <;> simp_all [Action.IsBuiltIn]
  · split at hthreads <;> simp_all [Action.IsBuiltIn]
  · split at hdump <;> simp_all [Action.IsBuiltIn]

theorem ownSignals_ofOptions (options : Options) :
    (ofOptions options : Pipeline σ κ).actions.flatMap Action.ownSignals =
      if options.threadDump then [.quit] else [] := by
  simp only [ofOptions, List.flatMap_append]
  cases options.heapHistogram <;> cases options.memoryUsage <;> cases options.threadDump <;>
    cases options.heapDumpPath <;> rfl

end Pipeline

end ExhaustionGuard
