import ExhaustionGuard.Jvm.Scripted
import ExhaustionGuard.Proofs.Agent.Arming
import ExhaustionGuard.Sink

/-! # What a refused load leaves behind

A load that is refused before the controller is stored leaves the agent as it
was. The controller is stored before events are enabled, though, and nothing
takes it back: an agent to which the machine refuses the events is armed all the
same, so it handles events and no later load succeeds.
-/

namespace ExhaustionGuard

open Jvm Arming

variable {J : Machine} {κ : Type}

namespace Jvm

/-- In fit states a machine grants all that arming asks for, and stays fit. -/
structure Machine.Grants (J : Machine) (fit : J.State → Prop) : Prop where
  environment : ∀ {state}, fit state →
    (J.getEnvironment state).1 = (0, true) ∧ fit (J.getEnvironment state).2
  command : ∀ {stage : ArmingStage} {given state},
    stage.call? = some (.command given) → fit state →
      J.provides given.function state = true ∧ (J.command given state).1 = .success ∧
        fit (J.command given state).2

namespace Machine.Grants

variable {fit : J.State → Prop}

theorem ruleCommand (hgrants : J.Grants fit) (stage : ArmingStage) {given : Command}
    (hcall : stage.call? = some (.command given)) {state : J.State} (hfit : fit state) :
    (J.ruleCommand given state).ending = .ok () ∧ fit (J.ruleCommand given state).state := by
  obtain ⟨hprovided, hcode, hnext⟩ := hgrants.command hcall hfit
  simp [Machine.ruleCommand, hprovided, hcode, hnext]

theorem rule (hgrants : J.Grants fit) {state : J.State} (hfit : fit state) (stage : ArmingStage) :
    (J.rule state stage).ending = .ok () ∧ fit (J.rule state stage).state := by
  cases stage with
  | optionsAccepted | controllerStored => exact ⟨rfl, hfit⟩
  | environmentObtained =>
      obtain ⟨hanswer, hnext⟩ := hgrants.environment hfit
      simp [Machine.rule, ruleEnvironment, hanswer, hnext]
  | taggingAllowed => exact hgrants.ruleCommand .taggingAllowed rfl hfit
  | callbacksInstalled => exact hgrants.ruleCommand .callbacksInstalled rfl hfit
  | eventsEnabled => exact hgrants.ruleCommand .eventsEnabled rfl hfit

theorem letsPass (hgrants : J.Grants fit) (stages : List ArmingStage) {state : J.State}
    (hfit : fit state) : J.LetsPass stages state := by
  induction stages generalizing state with
  | nil => trivial
  | cons stage rest ih =>
      obtain ⟨hending, hnext⟩ := hgrants.rule hfit stage
      exact ⟨hending, ih hnext⟩

end Machine.Grants

namespace Scripted

/-- A machine without classes and objects that grants everything. -/
def obliging : Script where
  graph := ⟨#[], #[], [], #[], #[]⟩
  heapUsage := none
  nonHeapUsage := none
  pools := []
  claimedSize := none
  missing := []
  rules := []
  heard := []

/-- A machine on which no callbacks can be installed. -/
def lacksCallbacks : Script := { obliging with missing := [.setEventCallbacks] }

/-- A machine that refuses events the first time that it is asked for them. -/
def refusesEventsOnce : Script :=
  { obliging with rules := [⟨"SetEventNotificationMode", some 1, .code 99⟩] }

/-- An agent that is not armed, with a scripted machine. -/
def deployed (script : Script) : Deployment machine LimitedSink where
  agent := .unarmed
  world :=
    { host := .start script
      sink := .unlimited
      system := .inMemory ⟨[]⟩ "/" (fun _ => none) ⟨⟨1970, 1, 1⟩, 0, 0, 0, 0, .utc⟩ }
  clock := 0

end Scripted

end Jvm

namespace Agent

/-- An agent as before any load: it ignores events, and a load with options that can be read on a
machine that grants all that is asked for arms it. -/
structure IsIdle (agent : Agent J κ) : Prop where
  eq_unarmed : agent = unarmed
  ignores : ∀ (sink : Sink κ) (event : Exhaustion) (description : Option Text.Bytes)
    (later : Deployment J κ), later.agent = agent →
      (exhausted sink event description).run later = ⟨.ok (), later, []⟩
  loads : ∀ {fit : J.State → Prop}, J.Grants fit → ∀ (later : Deployment J κ),
    later.agent = agent → fit later.world.host.state →
      ∀ {text : String} {options : Options}, (Options.read text).1 = .ok options →
        ((load text).run later).ending = .ok loaded ∧
          ((load text).run later).state.agent = ⟨some (Controller.ofOptions options)⟩

theorem isIdle_unarmed : IsIdle (unarmed : Agent J κ) where
  eq_unarmed := rfl
  ignores := by
    intro sink event description later hlater
    exact run_exhausted_unarmed (congrArg Agent.controller hlater) sink event description
  loads := by
    intro fit hgrants later hlater hfit text options hread
    have horderly := J.follow_isOrderly (plan options) later.world.host.state
    have hending := horderly.ending.mpr (hgrants.letsPass (plan options) hfit)
    have hpassed := horderly.complete.mp hending
    have hstored : .controllerStored ∈ plan options := mem_plan.mpr (by simp)
    rw [run_load hlater]
    simp [Machine.attempt_of_ok hread, hending, hpassed, outcome, armedBy, hstored, hread,
      Except.toOption]

/-- An agent that is armed with options: its controller handles events, and no load succeeds. -/
structure IsArmedWith (options : Options) (agent : Agent J κ) : Prop where
  eq_armed : agent = ⟨some (Controller.ofOptions options)⟩
  handles : ∀ (sink : Sink κ) (event : Exhaustion) (description : Option Text.Bytes)
    (later : Deployment J κ), later.agent = agent →
      let handling := ((Controller.ofOptions options).notify ⟨Jvm.host, sink⟩ later.clock event).run
        later.world
      ((exhausted sink event description).run later).trace =
          (noticeLines event description).map .logged ++ handling.trace ∧
        ((exhausted sink event description).run later).state.world = handling.state
  refuses : ∀ (later : Deployment J κ), later.agent = agent → ∀ text : String,
    (load text).run later = ⟨.ok notLoaded, later, [.logged (failureLine .alreadyArmed)]⟩

theorem isArmedWith_ofOptions (options : Options) :
    IsArmedWith options (⟨some (Controller.ofOptions options)⟩ : Agent J κ) where
  eq_armed := rfl
  handles := by
    intro sink event description later hlater
    simp [Effect.run, exhausted, hlater]
  refuses := by
    intro later hlater text
    exact run_load_armed (by simp [hlater]) text

theorem ending_run_load {deployment : Deployment J κ} (hunarmed : deployment.agent = unarmed)
    (text : String) :
    ((load text).run deployment).ending = .ok notLoaded ↔
      (J.attempt text deployment.world.host.state).ending ≠ .ok () := by
  rw [run_load hunarmed, ← outcome_eq_notLoaded]
  simp

/-- An attempt that failed has armed the agent just if it failed when events were to be enabled. -/
theorem armedBy_of_ne {text : String} {options : Options}
    (hread : (Options.read text).1 = .ok options) {state : J.State}
    (hfailed : (J.attempt text state).ending ≠ .ok ()) :
    (armedBy text (J.attempt text state).passed : Agent J κ) =
      if (J.attempt text state).passed = groundwork options then
        ⟨some (Controller.ofOptions options)⟩
      else unarmed := by
  have horderly := (J.attempt_isAttempt text state).orderly hread
  simp [armedBy, controllerStored_mem_iff_of_ne horderly hfailed, hread, Except.toOption]

/-- A refused load leaves the agent idle unless only the events were refused; then the agent is
armed all the same. -/
theorem load_refused {deployment : Deployment J κ} (hunarmed : deployment.agent = unarmed)
    {text : String} (hrefused : ((load text).run deployment).ending = .ok notLoaded) :
    let passed := (J.attempt text deployment.world.host.state).passed
    let left := ((load text).run deployment).state.agent
    (left.IsIdle ∧ ∀ options, (Options.read text).1 = .ok options → passed ≠ groundwork options) ∨
      ∃ options, (Options.read text).1 = .ok options ∧ passed = groundwork options ∧
        left.IsArmedWith options := by
  intro passed left
  have hfailed := (ending_run_load hunarmed text).mp hrefused
  have hleft : left = armedBy text passed := by
    simp only [left, run_load hunarmed, passed]
  cases hread : (Options.read text).1 with
  | error error =>
      have hpassed : passed = [] := ((J.attempt_isAttempt text _).idle hread).2
      refine .inl ⟨?_, by simp⟩
      rw [hleft, hpassed]
      exact isIdle_unarmed
  | ok options =>
      rw [hleft, armedBy_of_ne hread hfailed]
      by_cases hpassed : passed = groundwork options
      · refine .inr ⟨options, rfl, hpassed, ?_⟩
        rw [if_pos hpassed]
        exact isArmedWith_ofOptions options
      · refine .inl ⟨?_, ?_⟩
        · rw [if_neg hpassed]
          exact isIdle_unarmed
        · intro other hother
          rwa [← Except.ok.inj hother]

theorem load_refused_without_callbacks :
    let text := "printHeapHistogram=1"
    (Scripted.deployed Scripted.lacksCallbacks).agent = unarmed ∧
      ((load text).run (Scripted.deployed Scripted.lacksCallbacks)).ending = .ok notLoaded ∧
        ((load text).run (Scripted.deployed Scripted.lacksCallbacks)).state.agent.IsIdle := by
  intro text
  have hrefused :
      ((load text).run (Scripted.deployed Scripted.lacksCallbacks)).ending = .ok notLoaded := by
    decide +kernel
  have hunarmed :
      ((load text).run (Scripted.deployed Scripted.lacksCallbacks)).state.agent.controller.isNone =
        true := by
    decide +kernel
  refine ⟨rfl, hrefused, ?_⟩
  rcases load_refused rfl hrefused with hidle | ⟨options, -, -, harmed⟩
  · exact hidle.1
  · simp [harmed.eq_armed] at hunarmed

/-- An agent whose load was refused may well be armed: the next event makes it raise its signal,
and a load that the machine would now grant is refused. -/
theorem load_refused_yet_armed :
    let text := "signal=URG,printMemoryUsage=0"
    let refusal := (load text).run (Scripted.deployed Scripted.refusesEventsOnce)
    refusal.ending = .ok notLoaded ∧ ¬ refusal.state.agent.IsIdle ∧
      Trace.raised ((exhausted LimitedSink.operations .javaHeap none).run refusal.state).trace =
        [⟨.urg, 0, none⟩] ∧
      (Scripted.machine.attempt text refusal.state.world.host.state).ending = .ok () ∧
      ((load text).run refusal.state).ending = .ok notLoaded := by
  intro text refusal
  refine ⟨by decide +kernel, ?_, by decide +kernel, by decide +kernel, by decide +kernel⟩
  intro hidle
  have harmed : refusal.state.agent.controller.isSome = true := by decide +kernel
  simp [hidle.eq_unarmed, unarmed] at harmed

end Agent

end ExhaustionGuard
