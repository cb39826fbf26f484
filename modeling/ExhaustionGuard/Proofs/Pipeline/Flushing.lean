import ExhaustionGuard.Host.InMemory
import ExhaustionGuard.Proofs.Pipeline.Turns
import ExhaustionGuard.Proofs.Sink.Offers
import ExhaustionGuard.Sink

/-! # Output before signals

A signal may end the process, and what has not been flushed by then is lost. So
a thread dump is asked for only after a flush that succeeded, and the final
signal follows a flush of its own, although it does not depend on its success.
Either covers whatever the actions before have written and left unflushed.
-/

namespace ExhaustionGuard

open Effect

variable {σ κ : Type}

namespace Action

variable (around : Surroundings σ κ)

/-- What is written before a thread dump is asked for. -/
def dumpHeading : Text.Bytes :=
  Text.encode "\n>>> Thread Dump\n"

/-- How the output takes the heading of a thread dump, in its pieces. -/
def headingOffer (world : World σ κ) : Offer κ :=
  around.sink.offer (around.sink.piecesOf (Surroundings.headingLines "Thread Dump")) world.sink

/-- The output takes the heading of a thread dump whole, and can be flushed behind it. -/
def TakesHeading (world : World σ κ) : Prop :=
  (headingOffer around world).refusal = none ∧
    (around.sink.flush (headingOffer around world).output).1 = none

theorem run_dumpBanner (world : World σ κ) :
    (around.banner "Thread Dump").run world =
      ⟨Surroundings.endingOf (headingOffer around world).refusal,
        { world with sink := (headingOffer around world).output },
        (headingOffer around world).taken.map .wrote⟩ := by
  rw [around.banner_eq]
  exact around.run_forM_write _ world

variable {around} in
/-- A heading that is not refused is taken byte for byte. -/
theorem TakesHeading.flatten_taken {world : World σ κ} (htakes : TakesHeading around world) :
    (headingOffer around world).taken.flatten = dumpHeading := by
  have hbytes := around.sink.flatten_taken htakes.1
  rw [around.sink.flatten_piecesOf] at hbytes
  exact hbytes.trans (by decide)

/-- Behind a heading that is flushed the signal is raised, and nothing but a log line follows. -/
theorem trace_askThreadDump_of_takes (delay : Nat) {world : World σ κ}
    (htakes : TakesHeading around world) :
    ∃ lines : List LogLine, ((askThreadDump around delay).run world).trace =
      (headingOffer around world).taken.map .wrote ++
        .flushed true :: .raised .quit (world.system.refusal .quit) :: lines.map .logged := by
  obtain ⟨htaken, hflushed⟩ := htakes
  have hbanner := run_dumpBanner around world
  rw [htaken] at hbanner
  have hflush := around.run_flush { world with sink := (headingOffer around world).output }
  rw [hflushed] at hflush
  rw [askThreadDump, run_bind_of_ok (by rw [hbanner]; rfl), hbanner,
    run_bind_of_ok (by rw [hflush]), hflush, run_bind, World.run_raise]
  dsimp only
  cases world.system.refusal .quit with
  | none => exact ⟨[⟨.info, .threadDump, "waiting for thread dump", [.delay delay]⟩], rfl⟩
  | some errno => exact ⟨[], rfl⟩

theorem signals_wrote (pieces : List Text.Bytes) : Trace.signals (pieces.map .wrote) = [] := by
  induction pieces with
  | nil => rfl
  | cons piece rest ih => exact ih

/-- Without such a heading no signal is raised. -/
theorem signals_askThreadDump_of_not_takes (delay : Nat) {world : World σ κ}
    (htakes : ¬ TakesHeading around world) :
    Trace.signals ((askThreadDump around delay).run world).trace = [] := by
  have hbanner := run_dumpBanner around world
  rw [askThreadDump]
  cases hrefusal : (headingOffer around world).refusal with
  | some error =>
      rw [hrefusal] at hbanner
      rw [run_bind_of_error (by rw [hbanner]; rfl), hbanner]
      exact signals_wrote _
  | none =>
      rw [hrefusal] at hbanner
      have hflush := around.run_flush { world with sink := (headingOffer around world).output }
      cases hflushed : (around.sink.flush (headingOffer around world).output).1 with
      | some error =>
          rw [hflushed] at hflush
          rw [run_bind_of_ok (by rw [hbanner]; rfl), hbanner,
            run_bind_of_error (by rw [hflush]), hflush, Trace.signals_append]
          exact (List.append_nil _).trans (signals_wrote _)
      | none => exact absurd ⟨hrefusal, hflushed⟩ htakes

end Action

namespace Turn

variable (around : Surroundings σ κ) (event : Exhaustion)

/-- The turn raises this signal and no other, after it has left these events. -/
def RaisesAfter (turn : Turn σ κ) (before : List Event) (signal : Signal) : Prop :=
  ∃ refusal after, turn.trace around event = before ++ .raised signal refusal :: after ∧
    Trace.signals before = [] ∧ Trace.signals after = []

variable {turn : Turn σ κ} {delay : Nat} {signal : Signal}

/-- What the turn of a thread dump leaves before it asks for the dump, if the output takes it. -/
def request (turn : Turn σ κ) : List Event :=
  .logged (Pipeline.runningLine turn.action.name) ::
    ((Action.headingOffer around turn.start).taken.map .wrote ++ [.flushed true])

theorem bytes_request (htakes : Action.TakesHeading around turn.start) :
    Trace.bytes (turn.request around) = Action.dumpHeading := by
  rw [request, ← List.singleton_append, Trace.bytes_append, Trace.bytes_append, Trace.bytes_wrote,
    htakes.flatten_taken]
  exact List.append_nil _

theorem isFlushed_request (past : List Event) :
    Trace.IsFlushed (past ++ turn.request around) := by
  rw [request, List.append_cons, ← List.append_assoc]
  exact Trace.isFlushed_concat _

theorem raisesAfter_threadDump (haction : turn.action = .threadDump delay)
    (htakes : Action.TakesHeading around turn.start) :
    turn.RaisesAfter around event (turn.request around) .quit := by
  obtain ⟨lines, htrace⟩ := Action.trace_askThreadDump_of_takes around delay htakes
  have hrun : turn.run around event = (Action.askThreadDump around delay).run turn.start := by
    rw [run, haction, Action.act]
  refine ⟨turn.start.system.refusal .quit, (lines ++ turn.report around event).map .logged, ?_, ?_,
    Trace.signals_logged _⟩
  · rw [trace, hrun, htrace, request]
    simp
  · rw [request, ← List.singleton_append, Trace.signals_append, Trace.signals_append,
      Action.signals_wrote]
    rfl

theorem signals_threadDump_of_not_takes (haction : turn.action = .threadDump delay)
    (htakes : ¬ Action.TakesHeading around turn.start) :
    Trace.signals (turn.trace around event) = [] := by
  have hquiet := Action.signals_askThreadDump_of_not_takes around delay htakes
  rw [trace, ← List.singleton_append, Trace.signals_append, Trace.signals_append,
    Trace.signals_logged, List.append_nil, run, haction]
  exact hquiet

/-- What the turn of a final signal leaves before it raises the signal. -/
def farewell (turn : Turn σ κ) : List Event :=
  .logged (Pipeline.runningLine turn.action.name) ::
    .flushed (around.sink.flush turn.start.sink).1.isNone ::
      (Action.partingLines (around.sink.flush turn.start.sink).1).map .logged

theorem trace_kill (haction : turn.action = .kill signal) :
    turn.trace around event = turn.farewell around ++
      .raised signal (turn.start.system.refusal signal) ::
        (turn.report around event).map .logged := by
  have hrun : turn.run around event = (Action.sendKill around signal).run turn.start := by
    rw [run, haction, Action.act]
  rw [trace, hrun, Action.trace_sendKill, List.append_assoc, List.singleton_append, farewell]
  rfl

theorem raisesAfter_kill (haction : turn.action = .kill signal) :
    turn.RaisesAfter around event (turn.farewell around) signal := by
  refine ⟨_, _, turn.trace_kill around event haction, ?_, Trace.signals_logged _⟩
  exact Trace.signals_logged _

/-- Whatever was left before, all of it is flushed if the flush of the farewell succeeds. -/
theorem isFlushed_farewell (hflushed : (around.sink.flush turn.start.sink).1 = none)
    (past : List Event) : Trace.IsFlushed (past ++ turn.farewell around) := by
  rw [farewell, hflushed, List.append_cons]
  exact Trace.isFlushed_append_cons _ (Trace.bytes_logged _)

end Turn

namespace Pipeline

variable (around : Surroundings σ κ) (event : Exhaustion) (pipeline : Pipeline σ κ)

/-- A run with these turns flushes its output before it raises a signal. -/
structure FlushesFirst (run : Run (World σ κ) Unit) (turns : List (Turn σ κ)) : Prop where
  actions : turns.map Turn.action = pipeline.actions ++ [.kill pipeline.signal]
  trace : run.trace = turns.flatMap (Turn.trace around event)
  /-- A thread dump is asked for when all that the run has written so far is flushed, its own
  heading included. -/
  asked : ∀ earlier turn later delay, turns = earlier ++ turn :: later →
    turn.action = .threadDump delay → Action.TakesHeading around turn.start →
      turn.RaisesAfter around event (turn.request around) .quit ∧
        Trace.bytes (turn.request around) = Action.dumpHeading ∧
        Trace.IsFlushed (earlier.flatMap (Turn.trace around event) ++ turn.request around)
  /-- None is asked for behind a heading that was refused or could not be flushed. -/
  unasked : ∀ turn ∈ turns, ∀ delay, turn.action = .threadDump delay →
    ¬ Action.TakesHeading around turn.start → Trace.signals (turn.trace around event) = []
  /-- The signal that ends the process is raised in any case, and when all that the run has written
  so far is flushed, unless the flush just before it failed. -/
  killed : ∀ earlier turn later signal, turns = earlier ++ turn :: later →
    turn.action = .kill signal →
      turn.RaisesAfter around event (turn.farewell around) signal ∧
        ((around.sink.flush turn.start.sink).1 = none →
          Trace.IsFlushed (earlier.flatMap (Turn.trace around event) ++ turn.farewell around))
  /-- After the last turn, which is that of this signal, all that the whole run has written is
  flushed, unless its flush failed. -/
  ended : ∃ earlier last, turns = earlier ++ [last] ∧ last.action = .kill pipeline.signal ∧
    ((around.sink.flush last.start.sink).1 = none → Trace.IsFlushed run.trace)

/-- Whatever the actions of a pipeline write and however they end, their output is flushed before a
signal is raised. -/
theorem runAll_flushes_first (world : World σ κ) :
    FlushesFirst around event pipeline ((runAll around pipeline event).run world)
      (turns around event pipeline world) := by
  rw [run_runAll_eq_turns]
  constructor
  · exact Action.map_action_turns around event _ world
  · rfl
  · intro earlier turn later delay _ haction htakes
    exact ⟨Turn.raisesAfter_threadDump around event haction htakes,
      Turn.bytes_request around htakes, Turn.isFlushed_request around _⟩
  · intro turn _ delay haction htakes
    exact Turn.signals_threadDump_of_not_takes around event haction htakes
  · intro earlier turn later signal _ haction
    refine ⟨Turn.raisesAfter_kill around event haction, fun hflushed => ?_⟩
    exact Turn.isFlushed_farewell around hflushed _
  · refine ⟨_, _, turns_eq around event pipeline world, rfl, fun hflushed => ?_⟩
    -- behind the farewell nothing is written any more
    rw [turns_eq, List.flatMap_append, List.flatMap_singleton, Turn.trace_kill around event rfl,
      ← List.append_assoc]
    exact (Turn.isFlushed_farewell around hflushed _).append (Trace.bytes_logged _)

/-- An action that leaves a line unflushed when it panics, and a thread dump. -/
def panicsUnflushed : Pipeline InMemory LimitedSink where
  actions := [.custom "panicking" fun _ => do
    (Surroundings.mk InMemory.host LimitedSink.operations).writeLine "last words"
    Effect.stop (.panicked .noText), .threadDump 0]
  signal := .term

/-- The line is flushed with the heading of the thread dump, 28 bytes together. -/
example :
    Trace.raised
      ((runAll ⟨InMemory.host, LimitedSink.operations⟩ panicsUnflushed .javaHeap).run
        ⟨.empty, .unlimited,
          .inMemory ⟨[]⟩ "/" (fun _ => none) ⟨⟨1970, 1, 1⟩, 0, 0, 0, 0, .utc⟩⟩).trace =
      [⟨.quit, 28, none⟩, ⟨.term, 28, none⟩] := by
  decide

end Pipeline

end ExhaustionGuard
