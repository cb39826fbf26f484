import ExhaustionGuard.Host.InMemory
import ExhaustionGuard.Proofs.Effect.AddedLines
import ExhaustionGuard.Proofs.Pipeline.Turns
import ExhaustionGuard.Sink

/-! # Runs without threads

Where no thread can be started the management beans cannot be asked, so the two
actions that would ask them stand down: each is announced, logs one warning and
does nothing else. A pipeline then does what the pipeline without these two
actions does.
-/

namespace ExhaustionGuard

open Effect

variable {σ κ : Type}

/-- Events of the management beans, and of the directory that a heap dump goes to. -/
def Event.IsOfBeans : Event → Prop
  | .queried _ | .dumpRequested _ | .dumped _ | .madeDirectory _ => True
  | _ => False

namespace Action

/-- The line with which an action stands down when no thread can be started; none for an action
that needs no thread. -/
def standDown? : Action σ κ → Option LogLine
  | memoryPools => some ⟨.warn, .pools,
      "cannot dump memory pools since the JVM is unable to create a thread", []⟩
  | heapDump _ => some ⟨.warn, .heapDump,
      "cannot create heap dump since the JVM is unable to create a thread", []⟩
  | _ => none

/-- The lines of a turn in which an action stands down: it is announced, and then warns. -/
def standDownLines (action : Action σ κ) : List LogLine :=
  match action.standDown? with
  | some line => [Pipeline.runningLine action.name, line]
  | none => []

/-- The actions that need no thread. -/
def threadless (actions : List (Action σ κ)) : List (Action σ κ) :=
  actions.filter fun action => action.standDown?.isNone

theorem not_isOfBeans {action : Action σ κ} (hstays : action.standDown? = none) {event : Event}
    (hmay : action.MayEmit event) : ¬ event.IsOfBeans := by
  cases action <;> cases event <;> simp_all [standDown?, MayEmit, Event.IsOfBeans]

end Action

/-- The same surroundings with other answers about memory and to requests for a heap dump. -/
def Surroundings.withBeans (around : Surroundings σ κ) (memory : MemoryHost σ)
    (dumpHeap : String → HostM σ Unit) : Surroundings σ κ :=
  { around with host := { around.host with memory, dumpHeap } }

/-- However an effect ends, the system is as it was before. -/
def KeepsSystem {α : Type} (effect : WorldEffect σ κ α) : Prop :=
  ∀ world, (effect.run world).state.system = world.system

theorem closed_keepsSystem (around : Surroundings σ κ) {may : Event → Prop}
    (hmakes : ∀ place, ¬ may (.madeDirectory place)) : Closed around may KeepsSystem where
  pure := fun _ _ => rfl
  stop := fun _ _ => rfl
  bind := by
    intro α β effect next hfirst hnext world
    rw [run_bind]
    split
    next => exact hfirst world
    next value _ => exact (hnext value _).trans (hfirst world)
  get := fun _ hnext world => hnext world world
  note := fun _ _ _ => rfl
  writeBytes := by
    intro _ bytes world
    by_cases hbytes : bytes = []
    · rw [hbytes, around.run_writeBytes_nil]
    · rw [around.run_writeBytes hbytes]
  tryFlush := fun _ _ => rfl
  attempt := fun operation world => by rw [World.run_attempt]
  raise := fun _ world => by rw [World.run_raise]
  -- no directory may be made, so nothing has to be shown about making one
  makeDirectory := fun hmay => absurd (hmay []) (hmakes [])

namespace Action

variable (around : Surroundings σ κ) (event : Exhaustion)

theorem run_of_standDown {action : Action σ κ} {line : LogLine}
    (hthreads : event.isThreads = true) (hstands : action.standDown? = some line)
    (world : World σ κ) :
    Turn.run around event ⟨action, world⟩ = ⟨.ok (), world, [.logged line]⟩ := by
  cases action with
  | memoryPools =>
      obtain rfl := Option.some.inj hstands
      change (printMemory around event).run world = _
      rw [printMemory, if_pos hthreads]
      rfl
  | heapDump template =>
      obtain rfl := Option.some.inj hstands
      change (askHeapDump around template event).run world = _
      rw [askHeapDump, if_pos hthreads]
      rfl
  | _ => simp [standDown?] at hstands

theorem keepsSystem_act {action : Action σ κ} (hbuiltIn : action.IsBuiltIn)
    (hstays : action.standDown? = none) : KeepsSystem (action.act around event) := by
  have hmakes : ∀ place, ¬ action.MayEmit (.madeDirectory place) :=
    fun _ hmay => not_isOfBeans hstays hmay trivial
  exact (closed_keepsSystem around hmakes).act (.inl hbuiltIn) event

/-- Actions leave what those among them that need no thread leave, and log the lines of the turns in
which the others stand down. -/
theorem leave_threadless (hthreads : event.isThreads = true) (actions : List (Action σ κ))
    (world : World σ κ) :
    leave around event actions world = leave around event (threadless actions) world ∧
      Trace.AddsLines (actions.flatMap standDownLines)
        (trail around event (threadless actions) world) (trail around event actions world) := by
  induction actions generalizing world with
  | nil => exact ⟨rfl, .nil⟩
  | cons action rest ih =>
      cases hstands : action.standDown? with
      | none =>
          have hkept : threadless (action :: rest) = action :: threadless rest := by
            simp [threadless, hstands]
          obtain ⟨hleave, htrail⟩ := ih (Turn.run around event ⟨action, world⟩).state
          have hlines : action.standDownLines = [] := by rw [standDownLines, hstands]
          rw [hkept, leave_cons, leave_cons, trail_cons, trail_cons, List.flatMap_cons, hlines]
          exact ⟨hleave, htrail.prepend _⟩
      | some line =>
          -- the next action finds the world in which this one stood down
          have hdropped : threadless (action :: rest) = threadless rest := by
            simp [threadless, hstands]
          have hrun := run_of_standDown around event hthreads hstands world
          have htrace : Turn.trace around event ⟨action, world⟩ =
              [.logged (Pipeline.runningLine action.name), .logged line] := by
            rw [Turn.trace, Turn.report, hrun]
            rfl
          have hlines : action.standDownLines = [Pipeline.runningLine action.name, line] := by
            rw [standDownLines, hstands]
          obtain ⟨hleave, htrail⟩ := ih world
          rw [hdropped, leave_cons, trail_cons, htrace, hrun, List.flatMap_cons, hlines]
          exact ⟨hleave, .line _ (.line line htrail)⟩

theorem system_leave {actions : List (Action σ κ)}
    (hstay : ∀ action ∈ actions, action.IsBuiltIn ∧ action.standDown? = none)
    (world : World σ κ) : (leave around event actions world).system = world.system := by
  induction actions generalizing world with
  | nil => rfl
  | cons action rest ih =>
      obtain ⟨⟨hbuiltIn, hstays⟩, hrest⟩ := List.forall_mem_cons.mp hstay
      rw [leave_cons, ih hrest]
      exact keepsSystem_act around event hbuiltIn hstays world

theorem trail_spares_beans {actions : List (Action σ κ)}
    (hstay : ∀ action ∈ actions, action.IsBuiltIn ∧ action.standDown? = none)
    (world : World σ κ) : ∀ deed ∈ trail around event actions world, ¬ deed.IsOfBeans := by
  induction actions generalizing world with
  | nil => exact fun deed hdeed => absurd hdeed List.not_mem_nil
  | cons action rest ih =>
      obtain ⟨⟨hbuiltIn, hstays⟩, hrest⟩ := List.forall_mem_cons.mp hstay
      intro deed hdeed
      rw [trail_cons, Turn.trace, List.cons_append, List.append_assoc, List.mem_cons,
        List.mem_append, List.mem_append] at hdeed
      rcases hdeed with rfl | hacted | hreported | hlater
      · exact id
      · exact not_isOfBeans hstays (emits_act around event (.inl hbuiltIn) world deed hacted)
      · obtain ⟨line, _, rfl⟩ := List.mem_map.mp hreported
        exact id
      · exact ih hrest _ deed hlater

theorem act_withBeans (hthreads : event.isThreads = true) (memory : MemoryHost σ)
    (dumpHeap : String → HostM σ Unit) {action : Action σ κ} (hbuiltIn : action.IsBuiltIn) :
    action.act (around.withBeans memory dumpHeap) event = action.act around event := by
  cases action with
  | memoryPools => simp only [act, printMemory, if_pos hthreads]
  | heapDump template => simp only [act, askHeapDump, if_pos hthreads]
  | custom name act => exact hbuiltIn.elim
  | _ => rfl

end Action

/-- The options without the two actions that ask the management beans. -/
def Options.withoutBeans (options : Options) : Options :=
  { options with memoryUsage := false, heapDumpPath := none }

namespace Pipeline

variable (around : Surroundings σ κ) (event : Exhaustion)

/-- The warnings with which the actions that options ask for stand down. -/
def standDownWarnings (options : Options) : List LogLine :=
  (if options.memoryUsage then [⟨.warn, .pools,
      "cannot dump memory pools since the JVM is unable to create a thread", []⟩] else []) ++
  (if options.heapDumpPath.isSome then [⟨.warn, .heapDump,
      "cannot create heap dump since the JVM is unable to create a thread", []⟩] else [])

/-- The lines with which they stand down: each is announced, and then warns. -/
def standDownLines (options : Options) : List LogLine :=
  (if options.memoryUsage then [runningLine "memory pools", ⟨.warn, .pools,
      "cannot dump memory pools since the JVM is unable to create a thread", []⟩] else []) ++
  (if options.heapDumpPath.isSome then [runningLine "heap dump", ⟨.warn, .heapDump,
      "cannot create heap dump since the JVM is unable to create a thread", []⟩] else [])

theorem filter_standDownLines (options : Options) :
    (standDownLines options).filter (fun line => line.level ≠ .debug) =
      standDownWarnings options := by
  simp only [standDownLines, standDownWarnings]
  cases options.memoryUsage <;> cases options.heapDumpPath <;> rfl

theorem standDown_ofOptions (options : Options) :
    ((ofOptions options : Pipeline σ κ).actions ++
      [Action.kill options.signal]).flatMap Action.standDownLines = standDownLines options := by
  cases options with
  | mk seconds count heapHistogram entries memoryUsage threadDump heapDumpPath signal =>
      cases heapHistogram <;> cases memoryUsage <;> cases threadDump <;>
        cases heapDumpPath <;> rfl

theorem threadless_ofOptions (options : Options) :
    Action.threadless ((ofOptions options : Pipeline σ κ).actions ++ [.kill options.signal]) =
      (ofOptions options.withoutBeans).actions ++ [.kill options.signal] := by
  cases options with
  | mk seconds count heapHistogram entries memoryUsage threadDump heapDumpPath signal =>
      cases heapHistogram <;> cases memoryUsage <;> cases threadDump <;>
        cases heapDumpPath <;> rfl

theorem stay_ofOptions (options : Options) :
    ∀ action ∈ (ofOptions options.withoutBeans : Pipeline σ κ).actions ++ [.kill options.signal],
      action.IsBuiltIn ∧ action.standDown? = none := by
  intro action haction
  constructor
  · rcases List.mem_append.mp haction with haction | hkill
    · exact isBuiltIn_ofOptions options.withoutBeans action haction
    · obtain rfl := List.mem_singleton.mp hkill
      trivial
  · rw [← threadless_ofOptions] at haction
    exact Option.isNone_iff_eq_none.mp (List.mem_filter.mp haction).2

/-- Pipelines do the same in surroundings in which their actions do. -/
theorem runAll_congr {other : Surroundings σ κ} {pipeline : Pipeline σ κ}
    (hactions : ∀ action ∈ pipeline.actions, action.act other event = action.act around event)
    (hkill : (Action.kill pipeline.signal).act other event =
      (Action.kill pipeline.signal).act around event) :
    runAll other pipeline event = runAll around pipeline event := by
  have hrun : ∀ action : Action σ κ, action.act other event = action.act around event →
      runAction other event action = runAction around event action := by
    intro action hsame
    rw [runAction, hsame]
    rfl
  have hforM : ∀ actions : List (Action σ κ),
      (∀ action ∈ actions, action.act other event = action.act around event) →
        actions.forM (runAction other event) = actions.forM (runAction around event) := by
    intro actions hsame
    induction actions with
    | nil => exact List.forM_nil.trans List.forM_nil.symm
    | cons action rest ih =>
        obtain ⟨hfirst, hrest⟩ := List.forall_mem_cons.mp hsame
        change (runAction other event action >>= fun _ => rest.forM (runAction other event)) = _
        rw [hrun action hfirst, ih hrest]
        rfl
  rw [runAll, hforM _ hactions, hrun _ hkill]
  rfl

theorem runAll_withBeans (hthreads : event.isThreads = true) (memory : MemoryHost σ)
    (dumpHeap : String → HostM σ Unit) (options : Options) :
    runAll (around.withBeans memory dumpHeap) (ofOptions options) event =
      runAll around (ofOptions options) event := by
  refine runAll_congr around event (fun action haction => ?_) ?_
  · exact Action.act_withBeans around event hthreads memory dumpHeap
      (isBuiltIn_ofOptions options action haction)
  · exact Action.act_withBeans around event hthreads memory dumpHeap trivial

/-- A run of all that options ask for, beside a run that does not ask the management beans. -/
structure StandsDown (options : Options) (world : World σ κ)
    (full spared : Run (World σ κ) Unit) : Prop where
  ending : full.ending = spared.ending
  /-- The host, the output and the files are left the same. -/
  state : full.state = spared.state
  /-- For each action that stands down there are its announcement and its warning more, and there is
  no other difference. -/
  trace : Trace.AddsLines (standDownLines options) spared.trace full.trace
  log : (Trace.log full.trace).Perm (standDownLines options ++ Trace.log spared.trace)
  /-- Apart from DEBUG lines it is the warnings alone. -/
  shown : ((Trace.log full.trace).filter fun line => line.level ≠ .debug).Perm
    (standDownWarnings options ++
      (Trace.log spared.trace).filter fun line => line.level ≠ .debug)
  /-- Writes, flushes and signals are the same and come in the same order. -/
  deeds : Trace.deeds full.trace = Trace.deeds spared.trace
  bytes : Trace.bytes full.trace = Trace.bytes spared.trace
  /-- Each signal comes when the same number of bytes has been flushed. -/
  progress : Trace.progress full.trace = Trace.progress spared.trace
  noBeans : ∀ deed, deed ∈ full.trace ∨ deed ∈ spared.trace → ¬ deed.IsOfBeans
  files : full.state.system = world.system
  /-- Whatever other beans the machine had, neither run would notice. -/
  unasked : ∀ memory dumpHeap,
    (runAll (around.withBeans memory dumpHeap) (ofOptions options) event).run world = full ∧
      (runAll (around.withBeans memory dumpHeap) (ofOptions options.withoutBeans) event).run
        world = spared

/-- A run without threads leaves what the run without the two actions leaves, and has the lines more
with which they stand down. -/
theorem addsLines_runAll (hthreads : event.isThreads = true) (options : Options)
    (world : World σ κ) :
    let full := (runAll around (ofOptions options) event).run world
    let spared := (runAll around (ofOptions options.withoutBeans) event).run world
    full.state = spared.state ∧
      Trace.AddsLines (standDownLines options) spared.trace full.trace := by
  have hrun := Action.leave_threadless around event hthreads
    ((ofOptions options : Pipeline σ κ).actions ++ [Action.kill options.signal]) world
  rw [threadless_ofOptions, standDown_ofOptions] at hrun
  dsimp only
  rw [run_runAll_eq_trail, run_runAll_eq_trail]
  exact hrun

/-- Where no thread can be started, the actions that ask the management beans stand down, and
nothing else changes. -/
theorem runAll_stands_down (options : Options) (world : World σ κ)
    (hthreads : event.isThreads = true) :
    StandsDown around event options world
      ((runAll around (ofOptions options) event).run world)
      ((runAll around (ofOptions options.withoutBeans) event).run world) := by
  obtain ⟨hstate, htrace⟩ := addsLines_runAll around event hthreads options world
  have hfull := run_runAll_eq_trail around event (ofOptions options) world
  have hspared := run_runAll_eq_trail around event (ofOptions options.withoutBeans) world
  have hnoBeans := Action.trail_spares_beans around event (stay_ofOptions options) world
  rw [hfull, hspared] at hstate htrace ⊢
  constructor
  · rfl
  · exact hstate
  · exact htrace
  · exact htrace.log_perm
  · rw [← filter_standDownLines, ← List.filter_append]
    exact htrace.log_perm.filter _
  · exact htrace.deeds_eq
  · exact htrace.bytes_eq
  · exact htrace.progress_eq
  · intro deed hdeed
    rcases hdeed with hdeed | hdeed
    · -- a line that is added is no event of the beans
      rcases htrace.mem hdeed with hdeed | ⟨line, rfl⟩
      · exact hnoBeans deed hdeed
      · exact id
    · exact hnoBeans deed hdeed
  · exact hstate ▸ Action.system_leave around event (stay_ofOptions options) world
  · intro memory dumpHeap
    rw [runAll_withBeans around event hthreads, runAll_withBeans around event hthreads]
    exact ⟨hfull, hspared⟩

/-- Options under which the agent does everything that it can do. -/
def everything : Options :=
  { Options.default with heapHistogram := true, threadDump := true, heapDumpPath := some "%H" }

/-- A world without files and signals, whose output has room for three bytes. -/
def roomForThree : World InMemory LimitedSink where
  host := .empty
  sink := ⟨some 3, true⟩
  system := .inMemory ⟨[]⟩ "/" (fun _ => some .perm) ⟨⟨1970, 1, 1⟩, 0, 0, 0, 0, .utc⟩

/-- All bits of the event are set, the one about threads among them. -/
theorem everything_stands_down :
    (⟨-1⟩ : Exhaustion).isThreads = true ∧
      StandsDown ⟨InMemory.host, LimitedSink.operations⟩ ⟨-1⟩ everything roomForThree
        ((runAll ⟨InMemory.host, LimitedSink.operations⟩ (ofOptions everything) ⟨-1⟩).run
          roomForThree)
        ((runAll ⟨InMemory.host, LimitedSink.operations⟩ (ofOptions everything.withoutBeans)
          ⟨-1⟩).run roomForThree) :=
  ⟨by decide, runAll_stands_down _ _ _ _ (by decide)⟩

/-- An action that stands down is announced like any other, and its announcement is no warning. -/
theorem stands_down_announced :
    (⟨-1⟩ : Exhaustion).isThreads = true ∧
      ¬ (Trace.log ((runAll ⟨InMemory.host, LimitedSink.operations⟩ (ofOptions everything)
          ⟨-1⟩).run roomForThree).trace).Perm
        (standDownWarnings everything ++
          Trace.log ((runAll ⟨InMemory.host, LimitedSink.operations⟩
            (ofOptions everything.withoutBeans) ⟨-1⟩).run roomForThree).trace) := by
  have hthreads : (⟨-1⟩ : Exhaustion).isThreads = true := by decide
  obtain ⟨-, htrace⟩ := addsLines_runAll ⟨InMemory.host, LimitedSink.operations⟩ ⟨-1⟩ hthreads
    everything roomForThree
  refine ⟨hthreads, fun hperm => ?_⟩
  have hlength := htrace.log_perm.symm.trans hperm |>.length_eq
  rw [List.length_append, List.length_append, Nat.add_right_cancel_iff] at hlength
  exact absurd hlength (by decide)

end Pipeline

end ExhaustionGuard
