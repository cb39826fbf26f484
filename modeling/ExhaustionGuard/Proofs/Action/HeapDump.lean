import ExhaustionGuard.Host.InMemory
import ExhaustionGuard.Proofs.Action.Composition
import ExhaustionGuard.Proofs.Directory.Growth
import ExhaustionGuard.Proofs.Sink.Offers
import ExhaustionGuard.Sink

/-! # Stages of a heap dump

A heap dump is asked for once its directory is there and its heading has been
written and flushed, and it is announced once it has succeeded. Whatever fails on
the way, nothing later is done. The system is left as it was, but for directories
above the dump that were missing.
-/

namespace ExhaustionGuard

open Effect

variable {σ κ : Type}

namespace Trace

variable {trace : List Event}

/-- The heap dumps asked for in a trace. -/
def requests (trace : List Event) : List String :=
  trace.filterMap fun
    | .dumpRequested path => some path
    | _ => none

/-- The places where a trace made directories. -/
def directories (trace : List Event) : List (List String) :=
  trace.filterMap fun
    | .madeDirectory place => some place
    | _ => none

theorem directories_append (first second : List Event) :
    directories (first ++ second) = directories first ++ directories second :=
  List.filterMap_append

theorem directories_madeDirectory (places : List (List String)) :
    directories (places.map .madeDirectory) = places := by
  induction places with
  | nil => rfl
  | cons place rest ih => exact congrArg (place :: ·) ih

/-- No heap dump is asked for in a trace, and none succeeds. -/
def IsIdle (trace : List Event) : Prop :=
  requests trace = [] ∧ dumps trace = []

theorem IsIdle.append {first second : List Event} (hfirst : IsIdle first)
    (hsecond : IsIdle second) : IsIdle (first ++ second) := by
  constructor
  · rw [requests, List.filterMap_append]
    exact List.append_eq_nil_iff.mpr ⟨hfirst.1, hsecond.1⟩
  · rw [dumps, List.filterMap_append]
    exact List.append_eq_nil_iff.mpr ⟨hfirst.2, hsecond.2⟩

theorem isIdle_madeDirectory (places : List (List String)) :
    IsIdle (places.map .madeDirectory) := by
  induction places with
  | nil => exact ⟨rfl, rfl⟩
  | cons place rest ih => exact ih

theorem isIdle_wrote (pieces : List Text.Bytes) : IsIdle (pieces.map .wrote) := by
  induction pieces with
  | nil => exact ⟨rfl, rfl⟩
  | cons piece rest ih => exact ih

theorem directories_wrote (pieces : List Text.Bytes) :
    directories (pieces.map .wrote) = [] := by
  induction pieces with
  | nil => rfl
  | cons piece rest ih => exact ih

end Trace

theorem Effect.run_emit_bind {ω α : Type} (event : Event) (next : Unit → Effect ω α) (state : ω) :
    (emit event >>= next).run state =
      ⟨((next ()).run state).ending, ((next ()).run state).state,
        event :: ((next ()).run state).trace⟩ := rfl

/-! ## Runs that only write -/

/-- A run left the host and the system alone. It wrote a text, or a beginning of it if it stopped. -/
structure Writes (text : Text.Bytes) (before : World σ κ) (run : Run (World σ κ) Unit) : Prop where
  host : run.state.host = before.host
  system : run.state.system = before.system
  idle : Trace.IsIdle run.trace
  directories : Trace.directories run.trace = []
  bytes : Trace.bytes run.trace <+: text
  done : run.ending = .ok () → Trace.bytes run.trace = text

namespace Writes

variable {effect next : WorldEffect σ κ Unit} {first second : Text.Bytes} {before : World σ κ}

theorem bind (hfirst : Writes first before (effect.run before))
    (hsecond : ∀ middle, Writes second middle (next.run middle)) :
    Writes (first ++ second) before ((effect >>= fun _ => next).run before) := by
  cases hending : (effect.run before).ending with
  | error reason =>
      rw [run_bind_of_error hending]
      exact { hfirst with
        bytes := hfirst.bytes.trans (List.prefix_append first second)
        done := nofun }
  | ok value =>
      rw [run_bind_of_ok hending]
      have hfirstBytes := hfirst.done hending
      have hlater := hsecond (effect.run before).state
      refine ⟨hlater.host.trans hfirst.host, hlater.system.trans hfirst.system,
        hfirst.idle.append hlater.idle, ?_, ?_, fun hok => ?_⟩ <;> dsimp only
      · rw [Trace.directories_append, hfirst.directories, hlater.directories, List.append_nil]
      · rw [Trace.bytes_append, hfirstBytes]
        exact (List.prefix_append_right_inj first).mpr hlater.bytes
      · rw [Trace.bytes_append, hfirstBytes, hlater.done hok]

end Writes

theorem Writes.leavesSystem {text : Text.Bytes} {before : World σ κ} {run : Run (World σ κ) Unit}
    (hwrites : Writes text before run) :
    run.state.system = before.system ∧ Trace.directories run.trace = [] :=
  ⟨hwrites.system, hwrites.directories⟩

/-- The effect never touches the system, and makes no directories. -/
def LeavesSystem (effect : WorldEffect σ κ Unit) : Prop :=
  ∀ world, (effect.run world).state.system = world.system ∧
    Trace.directories (effect.run world).trace = []

theorem LeavesSystem.bind {effect : WorldEffect σ κ Unit} {next : Unit → WorldEffect σ κ Unit}
    (hfirst : LeavesSystem effect) (hnext : ∀ value, LeavesSystem (next value)) :
    LeavesSystem (effect >>= next) := by
  intro world
  obtain ⟨hsystem, hdirectories⟩ := hfirst world
  rw [run_bind]
  split
  next => exact ⟨hsystem, hdirectories⟩
  next value _ =>
    obtain ⟨hlater, hmore⟩ := hnext value (effect.run world).state
    refine ⟨hlater.trans hsystem, ?_⟩
    dsimp only
    rw [Trace.directories_append, hdirectories, hmore, List.append_nil]

theorem leavesSystem_emit {event : Event} (hevent : Trace.directories [event] = []) :
    LeavesSystem (emit event : WorldEffect σ κ Unit) :=
  fun _ => ⟨rfl, hevent⟩

namespace Surroundings

variable (around : Surroundings σ κ)

theorem writes_forM_write (texts : List String) (world : World σ κ) :
    Writes (texts.map Text.encode).flatten world ((texts.forM around.write).run world) := by
  rw [around.run_forM_write, ← around.sink.flatten_piecesOf]
  refine ⟨rfl, rfl, Trace.isIdle_wrote _, Trace.directories_wrote _, ?_, fun hok => ?_⟩
  · rw [Trace.bytes_wrote]
    exact around.sink.flatten_taken_prefix _ _
  · rw [Trace.bytes_wrote]
    cases hrefusal : (around.sink.offer (around.sink.piecesOf texts) world.sink).refusal with
    | none => exact around.sink.flatten_taken hrefusal
    | some error =>
        rw [hrefusal] at hok
        cases hok

theorem writes_flush (world : World σ κ) : Writes [] world (around.flush.run world) := by
  rw [run_flush]
  exact ⟨rfl, rfl, ⟨rfl, rfl⟩, rfl, List.prefix_rfl, fun _ => rfl⟩

/-- Writes texts and flushes them. -/
def writeAndFlush (texts : List String) : WorldEffect σ κ Unit := do
  texts.forM around.write
  around.flush

theorem writes_writeAndFlush (texts : List String) (world : World σ κ) :
    Writes (texts.map Text.encode).flatten world ((around.writeAndFlush texts).run world) := by
  have hwrites := (around.writes_forM_write texts world).bind around.writes_flush
  rwa [List.append_nil] at hwrites

/-- What was written and flushed ends in a flush that succeeded. -/
theorem trace_writeAndFlush {texts : List String} {world : World σ κ}
    (hending : ((around.writeAndFlush texts).run world).ending = .ok ()) :
    ∃ before, ((around.writeAndFlush texts).run world).trace = before ++ [.flushed true] := by
  cases hwrite : ((texts.forM around.write).run world).ending with
  | error reason =>
      rw [writeAndFlush, run_bind_of_error hwrite] at hending
      cases hending
  | ok value =>
      rw [writeAndFlush, run_bind_of_ok hwrite, run_flush] at hending ⊢
      refine ⟨((texts.forM around.write).run world).trace, ?_⟩
      dsimp only at hending ⊢
      cases hflush : (around.sink.flush ((texts.forM around.write).run world).state.sink).1 with
      | none => rfl
      | some error =>
          rw [hflush] at hending
          cases hending

end Surroundings

namespace Action

variable (around : Surroundings σ κ)

/-! ## The stages -/

/-- Makes the directory that a path lies in. -/
def makeParent (path : String) : WorldEffect σ κ Unit :=
  match Path.parentSteps? path with
  | some steps => World.makeDirectory steps
  | none => pure ()

/-- The line that is logged before a dump is asked for. -/
def dumpingLine (path : String) : LogLine :=
  ⟨.info, .heapDump, "dumping heap", [.path path]⟩

/-- What is done for a heap dump at a path, in order. -/
def dumpStages (path : String) : List (WorldEffect σ κ Unit) :=
  [makeParent path, around.banner "Heap Dump", around.flush, Effect.log (dumpingLine path),
    Effect.emit (.dumpRequested path), World.ask (around.host.dumpHeap path),
    Effect.emit (.dumped path), around.writeLine ("Heap dump written to " ++ path), around.flush]

/-- The heading of a heap dump. -/
def heapHeading : String := "\n>>> Heap Dump\n"

/-- Writes the heading and flushes it. -/
def writeHeading : WorldEffect σ κ Unit :=
  around.writeAndFlush (Surroundings.headingLines "Heap Dump")

theorem writes_writeHeading (world : World σ κ) :
    Writes (Text.encode heapHeading) world ((writeHeading around).run world) := by
  have hbytes : ((Surroundings.headingLines "Heap Dump").map Text.encode).flatten =
      Text.encode heapHeading := by decide +kernel
  rw [← hbytes]
  exact around.writes_writeAndFlush _ world

/-- The line that says where a dump was written. -/
def announcement (path : String) : String :=
  "Heap dump written to " ++ path ++ "\n"

/-- Writes where a dump is and flushes it. -/
def announce (path : String) : WorldEffect σ κ Unit :=
  around.writeAndFlush [announcement path]

theorem writes_announce (path : String) (world : World σ κ) :
    Writes (Text.encode (announcement path)) world ((announce around path).run world) := by
  have hbytes : ([announcement path].map Text.encode).flatten =
      Text.encode (announcement path) := List.flatten_singleton
  rw [← hbytes]
  exact around.writes_writeAndFlush _ world

/-- Asks for a dump, and announces it if it succeeds. -/
def askAndAnnounce (path : String) : WorldEffect σ κ Unit := do
  Effect.log (dumpingLine path)
  Effect.emit (.dumpRequested path)
  World.ask (around.host.dumpHeap path)
  Effect.emit (.dumped path)
  announce around path

theorem inOrder_dumpStages (path : String) :
    inOrder (dumpStages around path) = (do
      makeParent path
      writeHeading around
      askAndAnnounce around path) := by
  have lawful : LawfulMonad (WorldEffect σ κ) := lawfulMonad
  have hannouncement : around.writeLine ("Heap dump written to " ++ path) =
      [announcement path].forM around.write := bind_pure_unit.symm
  simp only [dumpStages, inOrder, askAndAnnounce, announce, writeHeading,
    Surroundings.writeAndFlush, Surroundings.banner_eq, hannouncement, bind_assoc, bind_pure_unit]

theorem run_askHeapDump_of_resolve {template path : String} {event : Exhaustion}
    (hthreads : event.isThreads = false) {world : World σ κ}
    (hpath : DumpPath.resolve world.system template world.system.now = .ok path) :
    (askHeapDump around template event).run world = (inOrder (dumpStages around path)).run world := by
  have lawful : LawfulMonad (WorldEffect σ κ) := lawfulMonad
  rw [askHeapDump, if_neg (by rw [hthreads]; exact Bool.false_ne_true), run_get_bind]
  simp only [hpath, dumpStages, inOrder, makeParent, bind_pure_unit]
  cases Path.parentSteps? path with
  | none => rfl
  | some steps => rfl

/-! ## The directory of the dump -/

/-- A place in a tree lies above a path: some of the steps to its parent lead there. -/
def IsAbove (tree : Directory) (path : String) (place : List String) : Prop :=
  ∃ steps, Path.parentSteps? path = some steps ∧ tree.IsOnWay steps place

/-- Where a path lies in a directory, the directory is there. -/
def HasParent (tree : Directory) (path : String) : Prop :=
  ∀ steps, Path.parentSteps? path = some steps → tree.isDirectory steps = true

/-- With directories at these places, a path lies in a directory that is there. -/
def GivesParent (tree : Directory) (path : String) (places : List (List String)) : Prop :=
  HasParent (tree.withDirectories places) path

/-- The parent of a path was made, as far as it could be, by adding directories at these places. -/
structure MakesParent (path : String) (before : World σ κ) (run : Run (World σ κ) Unit)
    (places : List (List String)) : Prop where
  trace : run.trace = places.map .madeDirectory
  state : run.state = { before with
    system := { before.system with tree := before.system.tree.withDirectories places } }
  order : before.system.tree.BuildOrder places
  above : ∀ place ∈ places, IsAbove (before.system.tree.withDirectories places) path place
  done : run.ending = .ok () → GivesParent before.system.tree path places

namespace MakesParent

variable {path : String} {before : World σ κ} {run : Run (World σ κ) Unit}
  {places : List (List String)}

theorem directories (makes : MakesParent path before run places) :
    Trace.directories run.trace = places := by
  rw [makes.trace]
  exact Trace.directories_madeDirectory places

/-- A place is as it was, or it was free and is a directory above the path now. -/
theorem kind?_eq (makes : MakesParent path before run places) (place : List String) :
    let after := before.system.tree.withDirectories places
    after.kind? place = before.system.tree.kind? place ∨
      before.system.tree.kind? place = none ∧ after.kind? place = some .directory ∧
        IsAbove after path place := by
  dsimp only
  rw [makes.order.kind?_withDirectories]
  by_cases hplace : place ∈ places
  · rw [if_pos hplace]
    exact .inr ⟨makes.order.kind?_eq_none hplace, rfl, makes.above place hplace⟩
  · rw [if_neg hplace]
    exact .inl rfl

end MakesParent

theorem makesParent_makeParent (path : String) {world : World σ κ}
    (hmaker : world.system.makeDirectories.OnlyAdds) :
    ∃ places, MakesParent path world ((makeParent path).run world) places := by
  unfold makeParent
  cases hsteps : Path.parentSteps? path with
  | none =>
      refine ⟨[], rfl, rfl, trivial, fun _ hplace => absurd hplace List.not_mem_nil, fun _ => ?_⟩
      intro steps hparent
      rw [hsteps] at hparent
      cases hparent
  | some steps =>
      have hgrows := hmaker world.system.tree steps
      dsimp only
      rw [World.run_makeDirectory]
      refine ⟨_, rfl, by rw [hgrows.tree_eq], hgrows.order, fun place hplace => ?_, fun hok => ?_⟩
      · rw [← hgrows.tree_eq]
        exact ⟨steps, hsteps, hgrows.onWay place hplace⟩
      · rw [GivesParent, ← hgrows.tree_eq]
        intro parent hparent
        obtain rfl := Option.some.inj (hsteps.symm.trans hparent)
        refine hgrows.done ?_
        cases hmade : (world.system.makeDirectories world.system.tree steps).result with
        | ok made => rfl
        | error error =>
            rw [hmade] at hok
            cases hok

/-! ## The account of a dump -/

/-- What must have happened before a dump is asked for. Directories were made at places of which
something is known. -/
structure IsPrepared (Known : List (List String) → Prop) (before : List Event) : Prop where
  idle : Trace.IsIdle before
  parent : Known (Trace.directories before)
  bytes : Trace.bytes before = Text.encode heapHeading
  flushed : Trace.IsFlushed before

/-- Whether a dump was asked for, and what the host made of it: the trace, and the host behind it. The
host is asked once at most, and nothing is said of a dump that did not succeed. -/
inductive DumpAccount (dumpHeap : String → HostM σ Unit) (path : String)
    (Known : List (List String) → Prop) (before : World σ κ) : List Event → σ → Prop
  | unasked {trace : List Event} : Trace.IsIdle trace →
      Trace.bytes trace <+: Text.encode heapHeading →
      DumpAccount dumpHeap path Known before trace before.host
  | refused {ready : List Event} {fault : HostFault} {host : σ} : IsPrepared Known ready →
      (dumpHeap path).finish before.host = (.error fault, host) →
      DumpAccount dumpHeap path Known before (ready ++ [.dumpRequested path]) host
  | granted {ready later : List Event} {host : σ} : IsPrepared Known ready →
      (dumpHeap path).finish before.host = (.ok (), host) → Trace.IsIdle later →
      Trace.bytes later <+: Text.encode (announcement path) →
      DumpAccount dumpHeap path Known before
        (ready ++ .dumpRequested path :: .dumped path :: later) host

variable {around} {path : String} {Known : List (List String) → Prop} {world : World σ κ} {host : σ}

theorem run_askAndAnnounce_of_error {fault : HostFault}
    (hfinish : (around.host.dumpHeap path).finish world.host = (.error fault, host)) :
    ((askAndAnnounce around path).run world).state = { world with host := host } ∧
      ((askAndAnnounce around path).run world).trace =
        [.logged (dumpingLine path), .dumpRequested path] := by
  rw [askAndAnnounce, Effect.log, run_emit_bind, run_emit_bind, run_bind, World.run_ask, hfinish]
  exact ⟨rfl, rfl⟩

theorem run_askAndAnnounce_of_ok
    (hfinish : (around.host.dumpHeap path).finish world.host = (.ok (), host)) :
    let rest := (announce around path).run { world with host := host }
    (askAndAnnounce around path).run world = ⟨rest.ending, rest.state,
      .logged (dumpingLine path) :: .dumpRequested path :: .dumped path :: rest.trace⟩ := by
  dsimp only
  rw [askAndAnnounce, Effect.log, run_emit_bind, run_emit_bind, run_bind, World.run_ask, hfinish]
  rfl

/-- Behind the directory, the heading and a log line a dump can be asked for. -/
theorem isPrepared_of_written {places : List (List String)} {middle : World σ κ}
    (hknown : Known places) (hwritten : ((writeHeading around).run middle).ending = .ok ()) :
    IsPrepared Known (places.map .madeDirectory ++ ((writeHeading around).run middle).trace ++
      [.logged (dumpingLine path)]) := by
  have hwrites := writes_writeHeading around middle
  obtain ⟨heading, htrace⟩ : ∃ heading,
      ((writeHeading around).run middle).trace = heading ++ [.flushed true] :=
    around.trace_writeAndFlush hwritten
  have hlogged : Trace.directories [.logged (dumpingLine path)] = [] := rfl
  refine ⟨((Trace.isIdle_madeDirectory places).append hwrites.idle).append ⟨rfl, rfl⟩, ?_, ?_, ?_⟩
  · rw [Trace.directories_append, Trace.directories_append, Trace.directories_madeDirectory,
      hwrites.directories, hlogged, List.append_nil, List.append_nil]
    exact hknown
  · rw [Trace.bytes_append, Trace.bytes_append, Trace.bytes_madeDirectory,
      hwrites.done hwritten]
    exact List.append_nil _
  · rw [htrace, List.append_assoc, List.append_assoc, List.singleton_append, ← List.append_assoc]
    exact Trace.isFlushed_append_cons _ rfl

/-- Once everything is prepared the host is asked, and what follows is announced or is not there. -/
theorem dumpAccount_askAndAnnounce {world ready : World σ κ} {before : List Event}
    (hprepared : IsPrepared Known (before ++ [.logged (dumpingLine path)]))
    (hhost : ready.host = world.host) :
    DumpAccount around.host.dumpHeap path Known world
      (before ++ ((askAndAnnounce around path).run ready).trace)
      ((askAndAnnounce around path).run ready).state.host := by
  obtain ⟨⟨ending, host⟩, hfinish⟩ : ∃ finished,
      (around.host.dumpHeap path).finish ready.host = finished := ⟨_, rfl⟩
  have hasked := hfinish
  rw [hhost] at hasked
  cases ending with
  | error fault =>
      obtain ⟨hstate, htrace⟩ := run_askAndAnnounce_of_error hfinish
      rw [hstate, htrace, List.append_cons]
      exact .refused hprepared hasked
  | ok value =>
      have hwrites := writes_announce around path { ready with host := host }
      rw [run_askAndAnnounce_of_ok hfinish, List.append_cons]
      dsimp only
      rw [hwrites.host]
      exact .granted hprepared hasked hwrites.idle hwrites.bytes

/-- However directories are made, their places are all that can be seen of it in a run. -/
theorem trace_makeParent (path : String) (world : World σ κ) :
    ∃ places : List (List String),
      ((makeParent path).run world).trace = places.map .madeDirectory ∧
      ((makeParent path).run world).state.host = world.host := by
  unfold makeParent
  cases Path.parentSteps? path with
  | none => exact ⟨[], rfl, rfl⟩
  | some steps =>
      dsimp only
      rw [World.run_makeDirectory]
      exact ⟨_, rfl, rfl⟩

theorem dumpAccount_dumpStages (around : Surroundings σ κ) (path : String) {world : World σ κ}
    (hknown : ((makeParent path).run world).ending = .ok () →
      Known (Trace.directories ((makeParent path).run world).trace)) :
    let run := (inOrder (dumpStages around path)).run world
    DumpAccount around.host.dumpHeap path Known world run.trace run.state.host := by
  obtain ⟨places, hmade, hhost⟩ := trace_makeParent path world
  have hwrites := writes_writeHeading around ((makeParent path).run world).state
  have hidle := Trace.isIdle_madeDirectory places
  dsimp only
  rw [inOrder_dumpStages]
  rw [hmade, Trace.directories_madeDirectory] at hknown
  cases hending : ((makeParent path).run world).ending with
  | error reason =>
      rw [run_bind_of_error hending, hhost, hmade]
      refine .unasked hidle ?_
      rw [Trace.bytes_madeDirectory]
      exact List.nil_prefix
  | ok made =>
      rw [run_bind_of_ok hending, hmade]
      cases hwritten : ((writeHeading around).run
          ((makeParent path).run world).state).ending with
      | error reason =>
          rw [run_bind_of_error hwritten]
          dsimp only
          rw [hwrites.host, hhost]
          refine .unasked (hidle.append hwrites.idle) ?_
          rw [Trace.bytes_append, Trace.bytes_madeDirectory]
          exact hwrites.bytes
      | ok written =>
          rw [run_bind_of_ok hwritten]
          dsimp only
          rw [← List.append_assoc]
          exact dumpAccount_askAndAnnounce (isPrepared_of_written (hknown hending) hwritten)
            (hwrites.host.trans hhost)

/-! ## The system behind a dump -/

theorem leavesSystem_askAndAnnounce (around : Surroundings σ κ) (path : String) :
    LeavesSystem (askAndAnnounce around path) := by
  refine .bind (leavesSystem_emit rfl) fun _ => ?_
  refine .bind (leavesSystem_emit rfl) fun _ => ?_
  refine .bind (fun world => ?_) fun _ => ?_
  · rw [World.run_ask]
    exact ⟨rfl, rfl⟩
  refine .bind (leavesSystem_emit rfl) fun _ => ?_
  exact fun world => (writes_announce around path world).leavesSystem

/-- Whatever the stages come to, only the first one touches the system. -/
theorem system_dumpStages (around : Surroundings σ κ) (path : String) {world : World σ κ}
    (hmaker : world.system.makeDirectories.OnlyAdds) :
    let run := (inOrder (dumpStages around path)).run world
    ∃ places, MakesParent path world ((makeParent path).run world) places ∧
      run.state.system = ((makeParent path).run world).state.system ∧
      Trace.directories run.trace = places := by
  have hlater : LeavesSystem (do
      writeHeading around
      askAndAnnounce around path : WorldEffect σ κ Unit) :=
    .bind (fun world => (writes_writeHeading around world).leavesSystem) fun _ =>
      leavesSystem_askAndAnnounce around path
  obtain ⟨places, hmakes⟩ := makesParent_makeParent path hmaker
  refine ⟨places, hmakes, ?_⟩
  rw [inOrder_dumpStages]
  cases hmade : ((makeParent path).run world).ending with
  | error reason =>
      rw [run_bind_of_error hmade]
      exact ⟨rfl, hmakes.directories⟩
  | ok made =>
      obtain ⟨hsystem, hdirectories⟩ := hlater ((makeParent path).run world).state
      rw [run_bind_of_ok hmade]
      refine ⟨hsystem, ?_⟩
      dsimp only
      rw [Trace.directories_append, hmakes.directories, hdirectories, List.append_nil]

/-- A heap dump went through its stages. -/
structure DumpsInStages (around : Surroundings σ κ) (path : String) (before : World σ κ)
    (run : Run (World σ κ) Unit) : Prop where
  /-- The host is asked at most once and when all is prepared; only a success is announced. -/
  account : DumpAccount around.host.dumpHeap path (GivesParent before.system.tree path) before
    run.trace run.state.host
  /-- The first stage that fails is the last one, and its error that of the action. -/
  ends : Ends (dumpStages around path) before run
  /-- Nothing but the tree of directories has changed in the system. -/
  system : run.state.system = { before.system with
    tree := before.system.tree.withDirectories (Trace.directories run.trace) }
  order : before.system.tree.BuildOrder (Trace.directories run.trace)
  /-- A place in the tree is as it was, or it was free and is a directory above the dump now. -/
  places : ∀ place, run.state.system.tree.kind? place = before.system.tree.kind? place ∨
    before.system.tree.kind? place = none ∧
      run.state.system.tree.kind? place = some .directory ∧
      IsAbove run.state.system.tree path place

/-- A template that cannot be written ends a heap dump before anything is done. Otherwise the dump goes
through its stages, for the path that the template stands for. -/
theorem heapDump_in_stages (around : Surroundings σ κ) (template : String) {event : Exhaustion}
    (hthreads : event.isThreads = false) (world : World σ κ)
    (hmaker : world.system.makeDirectories.OnlyAdds) :
    let run := (act around (.heapDump template) event).run world
    match DumpPath.resolve world.system template world.system.now with
    | .error error => run = ⟨.error (.failed (.output error)), world, []⟩
    | .ok path => DumpsInStages around path world run := by
  dsimp only
  rw [act]
  cases hpath : DumpPath.resolve world.system template world.system.now with
  | error error =>
      rw [askHeapDump, if_neg (by rw [hthreads]; exact Bool.false_ne_true), run_get_bind]
      dsimp only
      rw [hpath]
      rfl
  | ok path =>
      dsimp only
      rw [run_askHeapDump_of_resolve around hthreads hpath]
      obtain ⟨places, hmakes, hsystem, hdirectories⟩ := system_dumpStages around path hmaker
      have hparent : ((makeParent path).run world).ending = .ok () →
          GivesParent world.system.tree path
            (Trace.directories ((makeParent path).run world).trace) := by
        rw [hmakes.directories]
        exact hmakes.done
      have haccount := dumpAccount_dumpStages around path hparent
      have hends := ends_inOrder (dumpStages around path) world
      dsimp only at hsystem hdirectories haccount
      rw [hmakes.state] at hsystem
      refine ⟨haccount, hends, by rw [hsystem, hdirectories], ?_, fun place => ?_⟩
      · rw [hdirectories]
        exact hmakes.order
      · rw [hsystem]
        exact hmakes.kind?_eq place

/-- A system with a working directory in which nothing has been made yet. -/
def served : World InMemory LimitedSink where
  host := .empty
  sink := .unlimited
  system := .inMemory ⟨[(["srv"], .directory), (["srv", "core"], .file)]⟩ "/srv" (fun _ => none)
    ⟨⟨1970, 1, 1⟩, 0, 0, 0, 0, .utc⟩

/-- Two directories are made for a dump whose template is seen from the working directory. -/
theorem heapDump_in_stages_served :
    let around : Surroundings InMemory LimitedSink := ⟨InMemory.host, LimitedSink.operations⟩
    let run := (act around (.heapDump "dumps/%Y/heap.hprof") .javaHeap).run served
    Exhaustion.javaHeap.isThreads = false ∧ served.system.makeDirectories.OnlyAdds ∧
      DumpsInStages around "/srv/dumps/1970/heap.hprof" served run ∧ run.ending = .ok () ∧
      Trace.directories run.trace = [["srv", "dumps"], ["srv", "dumps", "1970"]] := by
  have hthreads : Exhaustion.javaHeap.isThreads = false := by decide
  have hmaker : served.system.makeDirectories.OnlyAdds := Directory.make_onlyAdds
  have hstages := heapDump_in_stages ⟨InMemory.host, LimitedSink.operations⟩ "dumps/%Y/heap.hprof"
    hthreads served hmaker
  have hpath : DumpPath.resolve served.system "dumps/%Y/heap.hprof" served.system.now =
      .ok "/srv/dumps/1970/heap.hprof" := by decide +kernel
  dsimp only at hstages ⊢
  rw [hpath] at hstages
  exact ⟨hthreads, hmaker, hstages, by decide +kernel, by decide +kernel⟩

end Action

end ExhaustionGuard
