import ExhaustionGuard.Action

/-! # What actions are put together from

The agent's own actions are sequences of a few operations: writes, flushes,
questions to the host, directories, signals and log lines. A predicate on
effects that holds of these operations and is kept by sequencing holds of every
action, so no analysis has to go through the actions again.
-/

namespace ExhaustionGuard

open Effect

variable {σ κ α : Type}

/-! ## Runs of the operations -/

/-- Ends in the given way and does nothing. -/
def Effect.endWith {ω : Type} (ending : Except Stop α) : Effect ω α :=
  fun state => ⟨ending, state, []⟩

theorem Effect.run_get_bind {ω : Type} (next : ω → Effect ω α) (state : ω) :
    (get >>= next).run state = (next state).run state := rfl

namespace World

theorem run_attempt (operation : HostM σ α) (world : World σ κ) :
    (attempt operation).run world =
      ⟨match (operation.finish world.host).1 with
        | .ok value => .ok (.ok value)
        | .error (.failed error) => .ok (.error error)
        | .error (.panicked payload) => .error (.panicked payload),
        { world with host := (operation.finish world.host).2 }, []⟩ := by
  have hrun : (attempt operation).run world = attempt operation world := rfl
  rw [hrun, attempt]
  dsimp only
  cases (operation.finish world.host).1 with
  | ok value => rfl
  | error fault => cases fault <;> rfl

/-- How an action stops that meets a fault of the host. -/
def stopOf : HostFault → Stop
  | .failed error => .failed (.host error)
  | .panicked payload => .panicked payload

theorem run_ask (operation : HostM σ α) (world : World σ κ) :
    (ask operation).run world =
      ⟨(operation.finish world.host).1.mapError stopOf,
        { world with host := (operation.finish world.host).2 }, []⟩ := by
  rw [ask, run_bind, run_attempt]
  cases (operation.finish world.host).1 with
  | ok value => rfl
  | error fault => cases fault <;> rfl

theorem run_raise (signal : Signal) (world : World σ κ) :
    (raise signal).run world =
      ⟨match world.system.refusal signal with
        | none => .ok ()
        | some errno => .error (.failed (.signal errno)),
        world, [.raised signal (world.system.refusal signal)]⟩ := by
  have hrun : (raise signal).run world = raise signal world := rfl
  rw [hrun, raise]
  cases world.system.refusal signal <;> rfl

theorem run_makeDirectory (steps : List Path.Step) (world : World σ κ) :
    let made := world.system.makeDirectories world.system.tree steps
    (makeDirectory steps).run world =
      ⟨match made.result with
        | .ok () => .ok ()
        | .error error => .error (.failed (.output (.path error))),
        { world with system := { world.system with tree := made.tree } },
        made.added.map .madeDirectory⟩ := by
  intro made
  have hrun : (makeDirectory steps).run world = makeDirectory steps world := rfl
  rw [hrun, makeDirectory]
  dsimp only [made]
  cases (world.system.makeDirectories world.system.tree steps).result <;> rfl

end World

namespace Surroundings

variable (around : Surroundings σ κ)

theorem run_tryFlush (world : World σ κ) :
    around.tryFlush.run world =
      ⟨.ok (around.sink.flush world.sink).1,
        { world with sink := (around.sink.flush world.sink).2 },
        [.flushed (around.sink.flush world.sink).1.isNone]⟩ := rfl

theorem run_flush (world : World σ κ) :
    around.flush.run world =
      ⟨match (around.sink.flush world.sink).1 with
        | none => .ok ()
        | some error => .error (.failed (.output error)),
        { world with sink := (around.sink.flush world.sink).2 },
        [.flushed (around.sink.flush world.sink).1.isNone]⟩ := by
  rw [flush, run_bind, run_tryFlush]
  dsimp only
  cases (around.sink.flush world.sink).1 <;> rfl

theorem run_writeBytes_nil (world : World σ κ) :
    (around.writeBytes []).run world = ⟨.ok (), world, []⟩ := rfl

/-- The sink is asked once; what it refuses ends the effect. -/
theorem run_writeBytes {bytes : Text.Bytes} (hbytes : bytes ≠ []) (world : World σ κ) :
    (around.writeBytes bytes).run world =
      ⟨match (around.sink.write bytes world.sink).1.refusal with
        | none => .ok ()
        | some error => .error (.failed (.output error)),
        { world with sink := (around.sink.write bytes world.sink).2 },
        [.wrote (match (around.sink.write bytes world.sink).1.refusal with
          | none => bytes
          | some _ => bytes.take (around.sink.write bytes world.sink).1.taken)]⟩ := by
  have hrun : (around.writeBytes bytes).run world = around.writeBytes bytes world := rfl
  have hsome : bytes.isEmpty = false := List.isEmpty_eq_false_iff.mpr hbytes
  rw [hrun, writeBytes, if_neg (by rw [hsome]; exact Bool.false_ne_true)]
  dsimp only
  cases (around.sink.write bytes world.sink).1.refusal <;> rfl

theorem run_writeBytes_of_taken {bytes : Text.Bytes} (hbytes : bytes ≠ []) {world : World σ κ}
    {taken : Nat} {sink : κ}
    (htaken : around.sink.write bytes world.sink = (⟨taken, none⟩, sink)) :
    (around.writeBytes bytes).run world =
      ⟨.ok (), { world with sink := sink }, [.wrote bytes]⟩ := by
  rw [around.run_writeBytes hbytes, htaken]

theorem run_writeBytes_of_refused {bytes : Text.Bytes} (hbytes : bytes ≠ []) {world : World σ κ}
    {taken : Nat} {error : OutputError} {sink : κ}
    (hrefused : around.sink.write bytes world.sink = (⟨taken, some error⟩, sink)) :
    (around.writeBytes bytes).run world =
      ⟨.error (.failed (.output error)), { world with sink := sink },
        [.wrote (bytes.take taken)]⟩ := by
  rw [around.run_writeBytes hbytes, hrefused]

end Surroundings

/-! ## Predicates that sequencing keeps -/

/-- Events that only note something; every other event belongs to an operation of its own. -/
def Event.IsNote : Event → Prop
  | .logged _ | .queried _ | .dumpRequested _ | .dumped _ => True
  | _ => False

/-- A predicate on effects that sequencing keeps, and that holds of every operation whose events
are among the given ones. -/
structure Closed (around : Surroundings σ κ) (may : Event → Prop)
    (good : {α : Type} → WorldEffect σ κ α → Prop) : Prop where
  pure : ∀ {α : Type} (value : α), good (pure value : WorldEffect σ κ α)
  stop : ∀ {α : Type} (reason : Stop), good (Effect.stop reason : WorldEffect σ κ α)
  bind : ∀ {α β : Type} {effect : WorldEffect σ κ α} {next : α → WorldEffect σ κ β},
    good effect → (∀ value, good (next value)) → good (effect >>= next)
  /-- The system may be looked at, but neither the state of the host nor that of the output. -/
  get : ∀ {α : Type} {next : World σ κ → WorldEffect σ κ α},
    (∀ left right, left.system = right.system → next left = next right) →
    (∀ world, good (next world)) → good (Effect.get >>= next)
  note : ∀ {event : Event}, event.IsNote → may event →
    good (Effect.emit event : WorldEffect σ κ Unit)
  writeBytes : (∀ bytes, may (.wrote bytes)) → ∀ bytes, good (around.writeBytes bytes)
  tryFlush : (∀ succeeded, may (.flushed succeeded)) → good around.tryFlush
  attempt : ∀ {α : Type} (operation : HostM σ α),
    good (World.attempt operation : WorldEffect σ κ _)
  raise : ∀ {signal : Signal}, (∀ refusal, may (.raised signal refusal)) →
    good (World.raise signal : WorldEffect σ κ Unit)
  makeDirectory : (∀ place, may (.madeDirectory place)) → ∀ steps,
    good (World.makeDirectory steps : WorldEffect σ κ Unit)

namespace Action

/-- An action of the agent itself, whose computation is known. -/
def IsBuiltIn : Action σ κ → Prop
  | custom _ _ => False
  | _ => True

/-- An action that writes texts and then ends in some way, or with the error of the first write that
was refused. -/
def IsWriter (around : Surroundings σ κ) (action : Action σ κ) : Prop :=
  ∃ (name : String) (texts : Exhaustion → List String) (ending : Exhaustion → Except Stop Unit),
    action = custom name fun event => do
      (texts event).forM around.write
      endWith (ending event)

/-- An action of the agent itself, or one that only writes. -/
def IsPlain (around : Surroundings σ κ) (action : Action σ κ) : Prop :=
  action.IsBuiltIn ∨ action.IsWriter around

/-- The events that an action of the agent may leave in a trace. None of them is an ERROR line:
those come from whoever contains the failure of an action. -/
def MayEmit : Action σ κ → Event → Prop
  | _, .logged line => line.level ≠ .error
  | kill _, .wrote _ => False
  | _, .wrote _ => True
  | _, .flushed _ => True
  | memoryPools, .queried _ => True
  | threadDump _, .raised raised _ => raised = .quit
  | kill signal, .raised raised _ => raised = signal
  | heapDump _, .dumpRequested _ => True
  | heapDump _, .dumped _ => True
  | heapDump _, .madeDirectory _ => True
  | _, _ => False

end Action

namespace Closed

variable {around : Surroundings σ κ} {may : Event → Prop}
  {good : {α : Type} → WorldEffect σ κ α → Prop}

theorem log (closed : Closed around may good) {line : LogLine} (hline : may (.logged line)) :
    good (Effect.log line : WorldEffect σ κ Unit) :=
  closed.note trivial hline

theorem forM (closed : Closed around may good) {ι : Type} {step : ι → WorldEffect σ κ Unit}
    (hstep : ∀ item, good (step item)) (items : List ι) : good (items.forM step) := by
  induction items with
  | nil => exact closed.pure ()
  | cons item rest ih => exact closed.bind (hstep item) fun _ => ih

theorem write (closed : Closed around may good) (hwrote : ∀ bytes, may (.wrote bytes))
    (text : String) : good (around.write text) :=
  closed.forM (closed.writeBytes hwrote) _

theorem banner (closed : Closed around may good) (hwrote : ∀ bytes, may (.wrote bytes))
    (title : String) : good (around.banner title) :=
  closed.bind (closed.write hwrote _) fun _ => closed.write hwrote _

theorem flush (closed : Closed around may good)
    (hflushed : ∀ succeeded, may (.flushed succeeded)) : good around.flush := by
  refine closed.bind (closed.tryFlush hflushed) fun refusal => ?_
  cases refusal with
  | none => exact closed.pure ()
  | some error => exact closed.stop _

theorem ask (closed : Closed around may good) {α : Type} (operation : HostM σ α) :
    good (World.ask operation : WorldEffect σ κ α) := by
  refine closed.bind (closed.attempt operation) fun answer => ?_
  cases answer with
  | ok value => exact closed.pure value
  | error error => exact closed.stop _

theorem captureHistogram {entries : Nat} {captures : Heap.Captures}
    (closed : Closed around (Action.heapHistogram entries captures : Action σ κ).MayEmit good) :
    good (Action.captureHistogram around captures) := by
  refine closed.bind (closed.ask _) fun tags => ?_
  exact closed.bind (closed.log (by simp [Action.MayEmit, Action.taggedLine])) fun _ => closed.ask _

theorem printHistogram {entries : Nat} {captures : Heap.Captures}
    (closed : Closed around (Action.heapHistogram entries captures : Action σ κ).MayEmit good) :
    good (Action.printHistogram around entries captures) := by
  refine closed.bind closed.captureHistogram fun histogram => ?_
  refine closed.bind (closed.log (by simp [Action.MayEmit])) fun _ => ?_
  refine closed.get (fun left right hsystem => ?_) fun world => ?_
  · rw [hsystem]
  refine closed.bind (closed.banner (fun _ => trivial) _) fun _ => ?_
  refine closed.bind (closed.write (fun _ => trivial) _) fun _ => ?_
  exact closed.flush fun _ => trivial

theorem queryMemory (closed : Closed around (Action.memoryPools : Action σ κ).MayEmit good) :
    good (Action.queryMemory around) := by
  refine closed.bind (closed.note trivial trivial) fun _ => ?_
  refine closed.bind (closed.attempt _) fun heap => ?_
  refine closed.bind (closed.note trivial trivial) fun _ => ?_
  refine closed.bind (closed.attempt _) fun nonHeap => ?_
  refine closed.bind (closed.note trivial trivial) fun _ => ?_
  exact closed.bind (closed.attempt _) fun pools => closed.pure _

theorem printMemory (closed : Closed around (Action.memoryPools : Action σ κ).MayEmit good)
    (event : Exhaustion) : good (Action.printMemory around event) := by
  unfold Action.printMemory
  split
  · exact closed.log (by simp [Action.MayEmit])
  · refine closed.bind closed.queryMemory fun answer => ?_
    cases answer with
    | error error => exact closed.log (by simp [Action.MayEmit])
    | ok usages =>
        refine closed.bind (closed.banner (fun _ => trivial) _) fun _ => ?_
        refine closed.bind (closed.forM (closed.write fun _ => trivial) _) fun _ => ?_
        exact closed.flush fun _ => trivial

theorem askThreadDump {delay : Nat}
    (closed : Closed around (Action.threadDump delay : Action σ κ).MayEmit good) :
    good (Action.askThreadDump around delay) := by
  refine closed.bind (closed.banner (fun _ => trivial) _) fun _ => ?_
  refine closed.bind (closed.flush fun _ => trivial) fun _ => ?_
  refine closed.bind (closed.raise fun _ => rfl) fun _ => ?_
  exact closed.log (by simp [Action.MayEmit])

theorem askHeapDump {template : String}
    (closed : Closed around (Action.heapDump template : Action σ κ).MayEmit good)
    (event : Exhaustion) : good (Action.askHeapDump around template event) := by
  -- what follows is the same whether or not a directory has to be made first
  have hdump : ∀ path, good (do
      around.banner "Heap Dump"
      around.flush
      Effect.log ⟨.info, .heapDump, "dumping heap", [.path path]⟩
      Effect.emit (.dumpRequested path)
      World.ask (around.host.dumpHeap path)
      Effect.emit (.dumped path)
      around.writeLine ("Heap dump written to " ++ path)
      around.flush : WorldEffect σ κ Unit) := by
    intro path
    refine closed.bind (closed.banner (fun _ => trivial) _) fun _ => ?_
    refine closed.bind (closed.flush fun _ => trivial) fun _ => ?_
    refine closed.bind (closed.log (by simp [Action.MayEmit])) fun _ => ?_
    refine closed.bind (closed.note trivial trivial) fun _ => closed.bind (closed.ask _) fun _ => ?_
    refine closed.bind (closed.note trivial trivial) fun _ => ?_
    refine closed.bind (closed.write (fun _ => trivial) _) fun _ => ?_
    exact closed.flush fun _ => trivial
  unfold Action.askHeapDump
  split
  · exact closed.log (by simp [Action.MayEmit])
  · refine closed.get (fun left right hsystem => ?_) fun world => ?_
    · rw [hsystem]
    dsimp only
    split
    · exact closed.stop _
    · split
      · exact closed.bind (closed.makeDirectory (fun _ => trivial) _) fun _ => hdump _
      · exact hdump _

theorem sendKill {signal : Signal}
    (closed : Closed around (Action.kill signal : Action σ κ).MayEmit good) :
    good (Action.sendKill around signal) := by
  have hsend : good (do
      Effect.log ⟨.warn, .kill, "jvmkill is killing current process", []⟩
      World.raise signal : WorldEffect σ κ Unit) :=
    closed.bind (closed.log (by simp [Action.MayEmit])) fun _ => closed.raise fun _ => rfl
  refine closed.bind (closed.tryFlush fun _ => trivial) fun refusal => ?_
  cases refusal with
  | none => exact hsend
  | some error => exact closed.bind (closed.log (by simp [Action.MayEmit])) fun _ => hsend

theorem writer {action : Action σ κ} (closed : Closed around action.MayEmit good)
    (hwriter : action.IsWriter around) (event : Exhaustion) : good (action.act around event) := by
  obtain ⟨name, texts, ending, rfl⟩ := hwriter
  refine closed.bind (closed.forM (closed.write fun _ => trivial) _) fun _ => ?_
  cases hending : ending event with
  | ok value => exact closed.pure value
  | error reason => exact closed.stop reason

theorem act {action : Action σ κ} (closed : Closed around action.MayEmit good)
    (hplain : action.IsPlain around) (event : Exhaustion) : good (action.act around event) := by
  rcases hplain with hbuiltIn | hwriter
  · cases action with
    | heapHistogram entries captures => exact closed.printHistogram
    | memoryPools => exact closed.printMemory event
    | threadDump delay => exact closed.askThreadDump
    | heapDump template => exact closed.askHeapDump event
    | kill signal => exact closed.sendKill
    | custom name act => exact hbuiltIn.elim
  · exact closed.writer hwriter event

end Closed

end ExhaustionGuard
