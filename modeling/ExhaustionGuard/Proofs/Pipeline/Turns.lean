import ExhaustionGuard.Proofs.Pipeline.Containment

/-! # Turns of a pipeline

Each action has one turn. It begins in the world that the turn before it left,
and the final signal has the last one. A run of a pipeline is nothing but what
its actions do in their turns, with a line after each that failed.
-/

namespace ExhaustionGuard

open Effect

variable {σ κ : Type}

/-- An action in the world in which its turn comes. -/
structure Turn (σ κ : Type) where
  action : Action σ κ
  start : World σ κ

namespace Turn

variable (around : Surroundings σ κ) (event : Exhaustion)

/-- What the action does, and how it ends if nobody contains its failure. -/
def run (turn : Turn σ κ) : Run (World σ κ) Unit :=
  (turn.action.act around event).run turn.start

/-- The reason for which an action stopped, in words. -/
def reason : Stop → String
  | .failed error => error.message
  | .panicked (.text words) => "action panicked: " ++ words
  | .panicked .noText => "action panicked: unknown panic"

/-- The line about an action that failed; none about one that did not. -/
def report (turn : Turn σ κ) : List LogLine :=
  match (turn.run around event).ending with
  | .ok () => []
  | .error stop => [⟨.error, .action, turn.action.name ++ " action failed: " ++ reason stop, []⟩]

/-- What the turn adds to the trace of a pipeline: the action is announced, done and reported on. -/
def trace (turn : Turn σ κ) : List Event :=
  .logged (Pipeline.runningLine turn.action.name) ::
    ((turn.run around event).trace ++ (turn.report around event).map .logged)

theorem message_errorOf (stop : Stop) : (Pipeline.errorOf stop).message = reason stop := by
  cases stop with
  | failed error => rfl
  | panicked payload =>
      cases payload with
      | text words => rfl
      | noText =>
          change "action panicked: " ++ "unknown panic" = "action panicked: unknown panic"
          decide

theorem errors_trace (turn : Turn σ κ) :
    Trace.errors (turn.trace around event) =
      Trace.errors (turn.run around event).trace ++ turn.report around event := by
  have hreport : ∀ line ∈ turn.report around event, line.level = .error := by
    intro line hline
    unfold report at hline
    split at hline
    · exact absurd hline List.not_mem_nil
    · obtain rfl := List.mem_singleton.mp hline
      rfl
  rw [trace, ← List.singleton_append, Trace.errors_append, Trace.errors_append,
    Trace.errors_logged hreport]
  rfl

theorem run_runAction (turn : Turn σ κ) :
    (Pipeline.runAction around event turn.action).run turn.start =
      ⟨.ok (), (turn.run around event).state, turn.trace around event⟩ := by
  have hguarded : (Pipeline.guarded turn.action.name (turn.action.act around event)).run
      turn.start =
      match (turn.run around event).ending with
      | .ok () => turn.run around event
      | .error stop => ⟨.ok (), (turn.run around event).state, (turn.run around event).trace ++
          [.logged (Pipeline.failureLine turn.action.name stop)]⟩ := rfl
  rw [Pipeline.run_runAction, hguarded, trace, report]
  cases hrun : turn.run around event with
  | mk ending state events =>
      cases ending with
      | ok value => simp
      | error stop => simp [Pipeline.failureLine, message_errorOf]

end Turn

namespace Action

variable (around : Surroundings σ κ) (event : Exhaustion)

/-- The turns of actions one after another, from a world on. -/
def turns : List (Action σ κ) → World σ κ → List (Turn σ κ)
  | [], _ => []
  | action :: rest, world =>
      ⟨action, world⟩ :: turns rest (Turn.run around event ⟨action, world⟩).state

/-- The world that actions leave, one after another. -/
def leave (actions : List (Action σ κ)) (world : World σ κ) : World σ κ :=
  actions.foldl (fun world action => (Turn.run around event ⟨action, world⟩).state) world

/-- What actions leave in a trace, one after another. -/
def trail (actions : List (Action σ κ)) (world : World σ κ) : List Event :=
  (turns around event actions world).flatMap (Turn.trace around event)

theorem leave_cons (action : Action σ κ) (rest : List (Action σ κ)) (world : World σ κ) :
    leave around event (action :: rest) world =
      leave around event rest (Turn.run around event ⟨action, world⟩).state := rfl

theorem trail_cons (action : Action σ κ) (rest : List (Action σ κ)) (world : World σ κ) :
    trail around event (action :: rest) world =
      Turn.trace around event ⟨action, world⟩ ++
        trail around event rest (Turn.run around event ⟨action, world⟩).state :=
  List.flatMap_cons

@[simp]
theorem map_action_turns (actions : List (Action σ κ)) (world : World σ κ) :
    (turns around event actions world).map Turn.action = actions := by
  induction actions generalizing world with
  | nil => rfl
  | cons action rest ih => simp [turns, ih]

theorem turns_append (first second : List (Action σ κ)) (world : World σ κ) :
    turns around event (first ++ second) world =
      turns around event first world ++
        turns around event second (leave around event first world) := by
  induction first generalizing world with
  | nil => rfl
  | cons action rest ih => simp [turns, leave, ih]

theorem trail_append (first second : List (Action σ κ)) (world : World σ κ) :
    trail around event (first ++ second) world =
      trail around event first world ++
        trail around event second (leave around event first world) := by
  rw [trail, turns_append, List.flatMap_append]
  rfl

theorem leave_append (first second : List (Action σ κ)) (world : World σ κ) :
    leave around event (first ++ second) world =
      leave around event second (leave around event first world) :=
  List.foldl_append

/-- Each turn begins where the one before it ended. -/
theorem map_start_turns (actions : List (Action σ κ)) (world : World σ κ) :
    (turns around event actions world).map Turn.start ++ [leave around event actions world] =
      world :: (turns around event actions world).map fun turn =>
        (turn.run around event).state := by
  induction actions generalizing world with
  | nil => rfl
  | cons action rest ih =>
      have hrest := ih (Turn.run around event ⟨action, world⟩).state
      simpa [turns, leave] using hrest

theorem run_forM_runAction (actions : List (Action σ κ)) (world : World σ κ) :
    (actions.forM (Pipeline.runAction around event)).run world =
      ⟨.ok (), leave around event actions world,
        (turns around event actions world).flatMap (Turn.trace around event)⟩ := by
  induction actions generalizing world with
  | nil => rfl
  | cons action rest ih =>
      have hfirst := Turn.run_runAction around event ⟨action, world⟩
      have hcons := run_bind_of_ok (by rw [hfirst])
        fun _ => rest.forM (Pipeline.runAction around event)
      refine hcons.trans ?_
      rw [hfirst, ih]
      rfl

end Action

namespace Pipeline

variable (around : Surroundings σ κ) (event : Exhaustion) (pipeline : Pipeline σ κ)

/-- The turns of a whole run. -/
def turns (world : World σ κ) : List (Turn σ κ) :=
  Action.turns around event (pipeline.actions ++ [.kill pipeline.signal]) world

theorem run_runAll_eq_turns (world : World σ κ) :
    (runAll around pipeline event).run world =
      ⟨.ok (), Action.leave around event (pipeline.actions ++ [.kill pipeline.signal]) world,
        (turns around event pipeline world).flatMap (Turn.trace around event)⟩ := by
  have hkill := Turn.run_runAction around event ⟨.kill pipeline.signal,
    Action.leave around event pipeline.actions world⟩
  rw [run_runAll, Action.run_forM_runAction, turns, Action.turns_append, Action.leave_append,
    List.flatMap_append]
  dsimp only at hkill ⊢
  rw [hkill]
  simp [Action.turns, Action.leave]

theorem run_runAll_eq_trail (world : World σ κ) :
    (runAll around pipeline event).run world =
      ⟨.ok (), Action.leave around event (pipeline.actions ++ [.kill pipeline.signal]) world,
        Action.trail around event (pipeline.actions ++ [.kill pipeline.signal]) world⟩ :=
  run_runAll_eq_turns around event pipeline world

theorem turns_eq (world : World σ κ) :
    turns around event pipeline world =
      Action.turns around event pipeline.actions world ++
        [⟨.kill pipeline.signal, Action.leave around event pipeline.actions world⟩] :=
  Action.turns_append around event _ _ world

/-- A run of a pipeline contains the failures of its actions, whose turns are these. -/
structure Contains (world : World σ κ) (run : Run (World σ κ) Unit) (turns : List (Turn σ κ)) :
    Prop where
  /-- Every action has one turn, in order, and the final signal the last one. -/
  actions : turns.map Turn.action = pipeline.actions ++ [.kill pipeline.signal]
  /-- The first turn begins in the world of the run, each other one where the turn before it
  ended, and the run ends where the last one did. -/
  worlds : turns.map Turn.start ++ [run.state] =
    world :: turns.map fun turn => (turn.run around event).state
  ending : run.ending = .ok ()
  /-- Nothing happens but what the actions do, and the lines that announce them and tell of those
  that failed. -/
  trace : run.trace = turns.flatMap fun turn =>
    .logged (runningLine turn.action.name) ::
      ((turn.run around event).trace ++ (turn.report around event).map .logged)
  /-- The ERROR lines that an action logs of itself stand before the line about its failure. -/
  errors : Trace.errors run.trace = turns.flatMap fun turn =>
    Trace.errors (turn.run around event).trace ++ turn.report around event
  builtIn : ∀ turn ∈ turns, turn.action.IsBuiltIn →
    Trace.errors (turn.run around event).trace = []
  /-- The last turn flushes the output and, whatever came of it, raises the signal at its end. -/
  killed : ∃ last, turns.getLast? = some last ∧
    (last.run around event).trace =
      .flushed (around.sink.flush last.start.sink).1.isNone ::
        (Action.partingLines (around.sink.flush last.start.sink).1).map .logged ++
          [.raised pipeline.signal (last.start.system.refusal pipeline.signal)]

/-- Whatever the actions are and however each of them ends, their failures are contained. -/
theorem runAll_contains (world : World σ κ) :
    Contains around event pipeline world ((runAll around pipeline event).run world)
      (turns around event pipeline world) := by
  rw [run_runAll_eq_turns]
  constructor
  · exact Action.map_action_turns around event _ world
  · exact Action.map_start_turns around event _ world
  · rfl
  · rfl
  · rw [Trace.errors_flatMap]
    exact congrArg (List.flatMap · _) (funext fun turn => Turn.errors_trace around event turn)
  · intro turn _ hbuiltIn
    exact Action.errors_act around event (.inl hbuiltIn) turn.start
  · refine ⟨⟨.kill pipeline.signal, Action.leave around event pipeline.actions world⟩, ?_, ?_⟩
    · rw [turns_eq, List.getLast?_concat]
    · exact Action.trace_sendKill around pipeline.signal _

end Pipeline

end ExhaustionGuard
