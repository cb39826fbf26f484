import ExhaustionGuard.Proofs.Agent.Stages

/-! # Arming an agent

Arming gets exactly as far as its stages do with the machine. An attempt to load
an agent is therefore known in full from the progress of its stages: the code
that it returns, what it logs, the calls in the session, and whether a
controller is stored.
-/

namespace ExhaustionGuard

open Jvm

variable {J : Machine} {κ : Type}

/-- The session after calls of the tool interface that left the machine in a state. -/
def Jvm.Session.heard (session : Session J) (calls : List ToolCall) (state : J.State) : Session J :=
  { session with state := state, trace := session.trace ++ calls.map .tool }

@[simp]
theorem Jvm.Session.heard_nil (session : Session J) : session.heard [] session.state = session := by
  simp [heard]

namespace Arming

/-- A single stage of arming. -/
def perform (options : Options) : ArmingStage → ArmingM J κ Unit
  | .optionsAccepted => pass .optionsAccepted
  | .environmentObtained => do
      obtainEnvironment
      pass .environmentObtained
  | .taggingAllowed => do
      command (.addCapabilities true)
      pass .taggingAllowed
  | .callbacksInstalled => do
      command (.setEventCallbacks true)
      pass .callbacksInstalled
  | .controllerStored => do
      log [(Controller.ofOptions options : Controller (Session J) κ).armedLine]
      modify fun arming => { arming with agent := ⟨some (Controller.ofOptions options)⟩ }
      pass .controllerStored
  | .eventsEnabled => do
      command (.setEventNotificationMode true exhaustionEvent false)
      pass .eventsEnabled

/-- Arming is its plan, one stage after another. -/
theorem armWith_eq (text : String) :
    (armWith text : ArmingM J κ Unit) = (do
      let options ← readOptions text
      forM (plan options) (perform options)
      log [armedLine options]) := by
  unfold armWith
  congr 1
  funext options
  cases hhistogram : options.heapHistogram <;>
    simp [plan, groundwork, perform, hhistogram, bind_assoc]

variable (J κ) in
/-- What a stage logs once it is passed. -/
def stageLines (options : Options) : ArmingStage → List LogLine
  | .controllerStored => [(Controller.ofOptions options : Controller (Session J) κ).armedLine]
  | _ => []

/-- An attempt that has got so much further. -/
def advance (options : Options) (arming : Arming J κ) (progress : Progress J.State) :
    Arming J κ where
  agent := if .controllerStored ∈ progress.passed then ⟨some (Controller.ofOptions options)⟩
    else arming.agent
  session := arming.session.heard progress.calls progress.state
  stages := arming.stages ++ progress.passed
  lines := arming.lines ++ progress.passed.flatMap (stageLines J κ options)

theorem run_inSession_bind {α β : Type} (step : SessionM J α) (next : α → ArmingM J κ β)
    (arming : Arming J κ) :
    (inSession step >>= next).run arming =
      (next (step arming.session).1).run
        { arming with session := (step arming.session).2 } := rfl

theorem run_tooling_command (given : Command) (session : Session J) :
    (Tooling.command given).run session =
      if J.provides given.function session.state then
        (Tooling.ending (J.command given session.state).1,
          session.heard [.command given] (J.command given session.state).2)
      else (.error .notAvailable, session) := rfl

theorem run_command (given : Command) (arming : Arming J κ) :
    (command given).run arming =
      ((J.ruleCommand given arming.session.state).ending,
        { arming with
          session := arming.session.heard (J.ruleCommand given arming.session.state).calls
            (J.ruleCommand given arming.session.state).state }) := by
  rw [command, run_inSession_bind, run_tooling_command, Machine.ruleCommand, Tooling.ending]
  by_cases hprovided : J.provides given.function arming.session.state
  · by_cases hcode : (J.command given arming.session.state).1 = .success
    · simp only [hprovided, hcode, if_true]
      rfl
    · simp only [hprovided, hcode, if_true, if_false]
      rfl
  · simp only [hprovided, Bool.false_eq_true, if_false, Session.heard_nil]
    rfl

theorem run_obtainEnvironment (arming : Arming J κ) :
    obtainEnvironment.run arming =
      ((J.ruleEnvironment arming.session.state).ending,
        { arming with
          session := arming.session.heard (J.ruleEnvironment arming.session.state).calls
            (J.ruleEnvironment arming.session.state).state }) := by
  rw [obtainEnvironment, run_inSession_bind, Tooling.newEnvironment, Machine.ruleEnvironment]
  by_cases hcode : (J.getEnvironment arming.session.state).1.1 = 0
  · by_cases hcomes : (J.getEnvironment arming.session.state).1.2
    · simp only [hcode, hcomes, ne_eq, not_true_eq_false, if_false, if_true]
      rfl
    · simp only [hcode, hcomes]
      rfl
  · simp only [hcode, ne_eq, not_false_eq_true, if_true]
    rfl

theorem run_modify (change : Arming J κ → Arming J κ) (arming : Arming J κ) :
    (modify change : ArmingM J κ Unit).run arming = (.ok (), change arming) := rfl

theorem run_get (arming : Arming J κ) :
    (get : ArmingM J κ (Arming J κ)).run arming = (.ok arming, arming) := rfl

theorem run_pass (stage : ArmingStage) (arming : Arming J κ) :
    (pass stage).run arming = (.ok (), { arming with stages := arming.stages ++ [stage] }) := rfl

theorem run_log (lines : List LogLine) (arming : Arming J κ) :
    (log lines).run arming = (.ok (), { arming with lines := arming.lines ++ lines }) := rfl

theorem run_bind {α β : Type} (step : ArmingM J κ α) (next : α → ArmingM J κ β)
    (arming : Arming J κ) :
    (step >>= next).run arming =
      match (step.run arming).1 with
      | .ok value => (next value).run (step.run arming).2
      | .error error => (.error error, (step.run arming).2) := by
  rw [ExceptT.run_bind]
  rcases hstep : step.run arming with ⟨ending, after⟩
  cases ending with
  | ok value => simp only [bind, StateT.bind, hstep]
  | error error =>
      simp only [bind, StateT.bind, hstep]
      rfl

/-- A stage does what the machine makes of it, and is then passed or has failed. -/
theorem run_perform (options : Options) (stage : ArmingStage) (arming : Arming J κ) :
    (perform options stage).run arming =
      ((J.rule arming.session.state stage).ending,
        arming.advance options ((J.rule arming.session.state stage).on stage)) := by
  cases stage with
  | optionsAccepted =>
      rw [perform, run_pass]
      simp [Machine.rule, Ruling.on, advance, stageLines]
  | controllerStored =>
      rw [perform, run_bind, run_log]
      dsimp only
      rw [run_bind, run_modify]
      dsimp only
      rw [run_pass]
      simp [Machine.rule, Ruling.on, advance, stageLines]
  | environmentObtained =>
      rw [perform, run_bind, run_obtainEnvironment]
      cases hending : (J.ruleEnvironment arming.session.state).ending with
      | ok value =>
          dsimp only
          rw [run_pass]
          simp [Machine.rule, Ruling.on, advance, hending, stageLines]
      | error error => simp [Machine.rule, Ruling.on, advance, hending]
  | taggingAllowed | callbacksInstalled | eventsEnabled =>
      -- whichever command it is, it is either carried out or refused
      rw [perform, run_bind, run_command]
      generalize hruling : J.ruleCommand _ _ = ruling
      cases hending : ruling.ending with
      | ok value =>
          dsimp only
          rw [run_pass]
          simp [Machine.rule, Ruling.on, advance, hruling, hending, stageLines]
      | error error => simp [Machine.rule, Ruling.on, advance, hruling, hending]

theorem advance_advance (options : Options) (arming : Arming J κ)
    (first later : Progress J.State) :
    (arming.advance options first).advance options later =
      arming.advance options (first.andThen later) := by
  by_cases hfirst : .controllerStored ∈ first.passed <;>
    by_cases hlater : .controllerStored ∈ later.passed <;>
      simp [advance, Progress.andThen, Session.heard, hfirst, hlater]

/-- Stages in a row do what the machine makes of following them. -/
theorem run_forM_perform (options : Options) (stages : List ArmingStage) (arming : Arming J κ) :
    (forM stages (perform options)).run arming =
      ((J.follow stages arming.session.state).ending,
        arming.advance options (J.follow stages arming.session.state)) := by
  induction stages generalizing arming with
  | nil =>
      have hstays : arming.advance options (J.follow [] arming.session.state) = arming := by
        simp [Machine.follow, advance]
      rw [hstays]
      rfl
  | cons stage rest ih =>
      rw [List.forM_cons, run_bind, run_perform, Machine.follow]
      cases hending : (J.rule arming.session.state stage).ending with
      | error error => simp [Ruling.on, hending]
      | ok value =>
          have hon : ((J.rule arming.session.state stage).on stage).ending = .ok () := hending
          simp only [hon, ih, advance_advance]
          rfl

/-- What reading an option text logs. -/
def readingLines (text : String) : List LogLine :=
  (Options.read text).2 ++ (Options.read text).1.toOption.toList.map optionsLine

theorem run_readOptions (text : String) (arming : Arming J κ) :
    (readOptions text).run arming =
      ((Options.read text).1.mapError .options,
        { arming with lines := arming.lines ++ readingLines text }) := by
  rcases hread : Options.read text with ⟨result, lines⟩
  rw [readingLines, hread, ← List.append_assoc]
  cases result with
  | ok options =>
      simp only [readOptions, hread]
      rfl
  | error error =>
      simp only [readOptions, hread, Except.toOption, Option.toList_none, List.map_nil,
        List.append_nil]
      rfl

theorem run_arm_of_isSome {arming : Arming J κ} (harmed : arming.agent.controller.isSome = true)
    (text : String) : (arm text).run arming = (.error .alreadyArmed, arming) := by
  rw [arm, run_bind, run_get]
  simp only [harmed, if_true]
  rfl

theorem run_arm_unarmed {arming : Arming J κ} (hunarmed : arming.agent = .unarmed)
    (text : String) : (arm text).run arming = (armWith text).run arming := by
  rw [arm, run_bind, run_get]
  simp [hunarmed, Agent.unarmed]

end Arming

/-- The agent after an attempt that passed some stages. -/
def Agent.armedBy (text : String) (passed : List ArmingStage) : Agent J κ :=
  if .controllerStored ∈ passed then ⟨(Options.read text).1.toOption.map Controller.ofOptions⟩
  else unarmed

namespace Arming

variable (J κ) in
/-- What an attempt with readable options logs behind them. -/
def progressLines (options : Options) (progress : Progress J.State) : List LogLine :=
  progress.passed.flatMap (stageLines J κ options) ++
    match progress.ending with
    | .ok () => [armedLine options]
    | .error _ => []

variable (J κ) in
/-- What an attempt logs, short of its failure. -/
def notes (text : String) (progress : Progress J.State) : List LogLine :=
  readingLines text ++ (Options.read text).1.toOption.toList.flatMap fun options =>
    progressLines J κ options progress

theorem run_armWith {arming : Arming J κ} (hunarmed : arming.agent = .unarmed) (text : String) :
    (armWith text).run arming =
      let progress := J.attempt text arming.session.state
      (progress.ending,
        { agent := .armedBy text progress.passed
          session := arming.session.heard progress.calls progress.state
          stages := arming.stages ++ progress.passed
          lines := arming.lines ++ notes J κ text progress }) := by
  rw [armWith_eq, run_bind, run_readOptions]
  cases hread : (Options.read text).1 with
  | error error =>
      simp [Machine.attempt, hread, Except.mapError, Agent.armedBy, hunarmed, notes,
        Except.toOption]
  | ok options =>
      simp only [Machine.attempt, hread, Except.mapError]
      rw [run_bind, run_forM_perform]
      cases hending : (J.follow (plan options) arming.session.state).ending with
      | ok value =>
          dsimp only
          rw [run_log]
          simp [notes, progressLines, advance, hunarmed, Agent.armedBy, hread, hending,
            Except.toOption]
      | error error =>
          simp [notes, progressLines, advance, hunarmed, Agent.armedBy, hread, hending,
            Except.toOption]

end Arming

namespace Agent

theorem outcome_eq_loaded {ending : Except AgentError Unit} :
    (outcome ending).1 = loaded ↔ ending = .ok () := by
  cases ending <;> simp [outcome, loaded, notLoaded]

theorem outcome_eq_notLoaded {ending : Except AgentError Unit} :
    (outcome ending).1 = notLoaded ↔ ending ≠ .ok () := by
  cases ending <;> simp [outcome, loaded, notLoaded]

theorem run_exhausted_unarmed {deployment : Deployment J κ}
    (hunarmed : deployment.agent.controller = none) (sink : Sink κ) (event : Exhaustion)
    (description : Option Text.Bytes) :
    (exhausted sink event description).run deployment = ⟨.ok (), deployment, []⟩ := by
  simp [exhausted, Effect.run, hunarmed]

/-- An armed agent is not loaded again. -/
theorem run_load_armed {deployment : Deployment J κ}
    (harmed : deployment.agent.controller.isSome = true) (text : String) :
    (load text).run deployment =
      ⟨.ok notLoaded, deployment, [.logged (failureLine .alreadyArmed)]⟩ := by
  simp [load, Effect.run, Arming.run_arm_of_isSome, harmed, outcome]

/-- Loading an agent that is not armed comes to what the attempt does. -/
theorem run_load {deployment : Deployment J κ} (hunarmed : deployment.agent = unarmed)
    (text : String) :
    (load text).run deployment =
      let progress := J.attempt text deployment.world.host.state
      ⟨.ok (outcome progress.ending).1,
        { deployment with
          agent := armedBy text progress.passed
          world := { deployment.world with
            host := deployment.world.host.heard progress.calls progress.state } },
        (Arming.notes J κ text progress ++ (outcome progress.ending).2).map .logged⟩ := by
  simp [load, Effect.run, Arming.run_arm_unarmed, Arming.run_armWith, hunarmed]

end Agent

end ExhaustionGuard
