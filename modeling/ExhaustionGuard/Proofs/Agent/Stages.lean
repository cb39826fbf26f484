import ExhaustionGuard.Agent
import Mathlib.Tactic.Common

/-! # How far arming gets

Arming goes through stages in a fixed order and ends at the first one that the
machine refuses. A stage makes at most one call of the tool interface. So the
stages that were passed tell which calls were made, and whether a controller
was stored when they were made.
-/

namespace ExhaustionGuard

open Jvm

variable {J : Machine} {κ : Type}

namespace ArmingStage

/-- The call of the tool interface that a stage makes, if it makes one. -/
def call? : ArmingStage → Option ToolCall
  | optionsAccepted => none
  | environmentObtained => some .getEnvironment
  | taggingAllowed => some (.command (.addCapabilities true))
  | callbacksInstalled => some (.command (.setEventCallbacks true))
  | controllerStored => none
  | eventsEnabled => some (.command (.setEventNotificationMode true exhaustionEvent false))

end ArmingStage

namespace Jvm

/-- What came of a stage of arming: whether it was passed, the calls that it made, and the state
that it left the machine in. -/
structure Ruling (State : Type) where
  ending : Except AgentError Unit
  calls : List ToolCall
  state : State

/-- A command that the machine lacks is not given. -/
def Machine.ruleCommand (J : Machine) (command : Command) (state : J.State) : Ruling J.State :=
  let refuse := fun code => .error (.host (.tool command.function.name code))
  if J.provides command.function state then
    let (code, next) := J.command command state
    ⟨if code = .success then .ok () else refuse code, [.command command], next⟩
  else ⟨refuse .notAvailable, [], state⟩

/-- What a machine makes of the request for its tool interface. -/
def Machine.ruleEnvironment (J : Machine) (state : J.State) : Ruling J.State :=
  let ((code, comes), next) := J.getEnvironment state
  let refuse := fun code => .error (.environment code)
  ⟨if code ≠ 0 then refuse code else if comes then .ok () else refuse (-1), [.getEnvironment], next⟩

/-- What a machine makes of a stage. -/
def Machine.rule (J : Machine) (state : J.State) : ArmingStage → Ruling J.State
  | .optionsAccepted | .controllerStored => ⟨.ok (), [], state⟩
  | .environmentObtained => J.ruleEnvironment state
  | .taggingAllowed => J.ruleCommand (.addCapabilities true) state
  | .callbacksInstalled => J.ruleCommand (.setEventCallbacks true) state
  | .eventsEnabled =>
      J.ruleCommand (.setEventNotificationMode true exhaustionEvent false) state

/-- A machine lets stages pass, one after another. -/
def Machine.LetsPass (J : Machine) : List ArmingStage → J.State → Prop
  | [], _ => True
  | stage :: rest, state =>
      (J.rule state stage).ending = .ok () ∧ J.LetsPass rest (J.rule state stage).state

/-- How far stages got: those that were passed, and what came of them together. -/
structure Progress (State : Type) extends Ruling State where
  passed : List ArmingStage

/-- A stage is passed if nothing was refused. -/
def Ruling.on {State : Type} (ruling : Ruling State) (stage : ArmingStage) : Progress State where
  toRuling := ruling
  passed := match ruling.ending with
    | .ok () => [stage]
    | .error _ => []

/-- One progress followed by another. -/
def Progress.andThen {State : Type} (first later : Progress State) : Progress State where
  ending := later.ending
  calls := first.calls ++ later.calls
  state := later.state
  passed := first.passed ++ later.passed

/-- How far stages get with a machine. Nothing is asked of it after the first refusal. -/
def Machine.follow (J : Machine) : List ArmingStage → J.State → Progress J.State
  | [], state => ⟨⟨.ok (), [], state⟩, []⟩
  | stage :: rest, state =>
      let first := (J.rule state stage).on stage
      match first.ending with
      | .error _ => first
      | .ok () => first.andThen (J.follow rest first.state)

theorem Machine.follow_cons_of_error {stage : ArmingStage} {state : J.State} {error : AgentError}
    (hruling : (J.rule state stage).ending = .error error) (rest : List ArmingStage) :
    J.follow (stage :: rest) state = ⟨J.rule state stage, []⟩ := by
  simp [follow, Ruling.on, hruling]

theorem Machine.follow_cons_of_ok {stage : ArmingStage} {state : J.State}
    (hruling : (J.rule state stage).ending = .ok ()) (rest : List ArmingStage) :
    J.follow (stage :: rest) state =
      Progress.andThen ⟨J.rule state stage, [stage]⟩
        (J.follow rest (J.rule state stage).state) := by
  simp [follow, Ruling.on, hruling]

theorem Machine.calls_ruleCommand (given : Command) (state : J.State) :
    (J.ruleCommand given state).calls <+: [.command given] ∧
      ((J.ruleCommand given state).ending = .ok () →
        (J.ruleCommand given state).calls = [.command given]) := by
  by_cases hprovided : J.provides given.function state <;>
    simp [ruleCommand, hprovided]

/-- A stage makes no call but its own, and it makes that one if it is passed. -/
theorem Machine.calls_rule (state : J.State) (stage : ArmingStage) :
    (J.rule state stage).calls <+: stage.call?.toList ∧
      ((J.rule state stage).ending = .ok () →
        (J.rule state stage).calls = stage.call?.toList) := by
  cases stage with
  | optionsAccepted | controllerStored => simp [rule, ArmingStage.call?]
  | environmentObtained => simp [rule, ruleEnvironment, ArmingStage.call?]
  | _ => exact J.calls_ruleCommand _ state

/-- How far stages got in order from a state of a machine: those passed are the first ones, which the
machine let pass, and so are those that made calls, of which the last one may have failed. -/
structure Progress.IsOrderly (stages : List ArmingStage) (state : J.State)
    (progress : Progress J.State) : Prop where
  passed : progress.passed <+: stages
  granted : J.LetsPass progress.passed state
  ending : progress.ending = .ok () ↔ J.LetsPass stages state
  complete : progress.ending = .ok () ↔ progress.passed = stages
  made : progress.passed.filterMap ArmingStage.call? <+: progress.calls
  noneAfter : progress.calls <+:
    (stages.take (progress.passed.length + 1)).filterMap ArmingStage.call?

theorem Machine.follow_isOrderly (stages : List ArmingStage) (state : J.State) :
    (J.follow stages state).IsOrderly stages state := by
  induction stages generalizing state with
  | nil => constructor <;> simp [follow, LetsPass]
  | cons stage rest ih =>
      obtain ⟨hcalls, hmade⟩ := J.calls_rule state stage
      cases hruling : (J.rule state stage).ending with
      | error error =>
          rw [follow_cons_of_error hruling]
          constructor
          case passed => simp
          case granted => trivial
          case ending => simp [LetsPass, hruling]
          case complete => simp [hruling]
          case made => simp
          case noneAfter => cases hcall : stage.call? <;> simpa [hcall] using hcalls
      | ok value =>
          have hlater := ih (J.rule state stage).state
          rw [follow_cons_of_ok hruling]
          constructor
          case passed => simpa [Progress.andThen] using hlater.passed
          case granted => simpa [Progress.andThen, LetsPass, hruling] using hlater.granted
          case ending => simpa [Progress.andThen, LetsPass, hruling] using hlater.ending
          case complete => simpa [Progress.andThen] using hlater.complete
          case made =>
            cases hcall : stage.call? <;>
              simpa [Progress.andThen, hmade hruling, hcall] using hlater.made
          case noneAfter =>
            cases hcall : stage.call? <;>
              simpa [Progress.andThen, hmade hruling, hcall] using hlater.noneAfter

end Jvm

namespace Arming

/-- The stages before events are enabled, in order. -/
def groundwork (options : Options) : List ArmingStage :=
  [.optionsAccepted, .environmentObtained] ++
    (if options.heapHistogram then [.taggingAllowed] else []) ++
      [.callbacksInstalled, .controllerStored]

/-- The stages of arming with given options, in order. -/
def plan (options : Options) : List ArmingStage :=
  groundwork options ++ [.eventsEnabled]

theorem mem_plan {options : Options} {stage : ArmingStage} :
    stage ∈ plan options ↔ (stage = .taggingAllowed → options.heapHistogram = true) := by
  cases hhistogram : options.heapHistogram <;> cases stage <;>
    simp [plan, groundwork, hhistogram]

theorem not_mem_groundwork (options : Options) : .eventsEnabled ∉ groundwork options := by
  cases hhistogram : options.heapHistogram <;> simp [groundwork, hhistogram]

/-- What is reached in a list for the first time is reached after all that comes before. -/
theorem prefix_of_mem {stage : ArmingStage} {before after passed : List ArmingStage}
    (hfirst : stage ∉ before) (hpassed : passed <+: before ++ stage :: after)
    (hmem : stage ∈ passed) : before ++ [stage] <+: passed := by
  have hlength : before.length < passed.length := by
    by_contra hshort
    have hearly : passed <+: before :=
      List.prefix_of_prefix_length_le hpassed (List.prefix_append _ _) (by omega)
    exact hfirst (hearly.subset hmem)
  have hbegins : before ++ [stage] <+: before ++ stage :: after :=
    ⟨after, by simp⟩
  exact List.prefix_of_prefix_length_le hbegins hpassed (by simp; omega)

variable {options : Options} {state : J.State} {progress : Progress J.State}

/-- A call was made by a stage of the plan, after all the stages before it. -/
theorem stage_of_call (horderly : progress.IsOrderly (plan options) state) {call : ToolCall}
    (hcall : call ∈ progress.calls) :
    ∃ stage ∈ (plan options).take (progress.passed.length + 1), stage.call? = some call :=
  List.mem_filterMap.mp (horderly.noneAfter.subset hcall)

theorem tagging_of_call (horderly : progress.IsOrderly (plan options) state) {can : Bool}
    (hcall : .command (.addCapabilities can) ∈ progress.calls) :
    can = true ∧ options.heapHistogram = true := by
  obtain ⟨stage, hstage, hmade⟩ := stage_of_call horderly hcall
  have hplan := mem_plan.mp (List.mem_of_mem_take hstage)
  cases stage <;> simp_all [ArmingStage.call?]

/-- Events are enabled on top of the whole groundwork. -/
theorem groundwork_of_call (horderly : progress.IsOrderly (plan options) state)
    {enable : Bool} {event : Nat} {oneThread : Bool}
    (hcall : .command (.setEventNotificationMode enable event oneThread) ∈ progress.calls) :
    (enable = true ∧ event = exhaustionEvent ∧ oneThread = false) ∧
      groundwork options <+: progress.passed := by
  obtain ⟨stage, hstage, hmade⟩ := stage_of_call horderly hcall
  have henabling : stage = .eventsEnabled := by
    cases stage <;> simp_all [ArmingStage.call?]
  subst henabling
  refine ⟨by simp_all [ArmingStage.call?], ?_⟩
  -- the call may have failed, so its stage need not be passed, but those before it are
  have hreached := prefix_of_mem (not_mem_groundwork options) (List.take_prefix _ _) hstage
  have hlength : (groundwork options).length ≤ progress.passed.length := by
    have htaken := hreached.length_le
    simp only [List.length_append, List.length_take, List.length_singleton] at htaken
    omega
  exact List.prefix_of_prefix_length_le (List.prefix_append _ _) horderly.passed hlength

/-- A controller is stored once the groundwork is done. -/
theorem controllerStored_mem_iff (horderly : progress.IsOrderly (plan options) state) :
    .controllerStored ∈ progress.passed ↔ groundwork options <+: progress.passed := by
  constructor
  · intro hstored
    obtain ⟨before, hbefore, hfirst⟩ : ∃ before,
        groundwork options = before ++ [.controllerStored] ∧ .controllerStored ∉ before := by
      refine ⟨(groundwork options).dropLast, ?_⟩
      cases hhistogram : options.heapHistogram <;> simp [groundwork, hhistogram]
    have hpassed := horderly.passed
    rw [plan, hbefore, List.append_assoc] at hpassed
    rw [hbefore]
    exact prefix_of_mem hfirst hpassed hstored
  · intro hdone
    exact hdone.subset (by simp [groundwork])

/-- If arming failed with a controller stored, then nothing but the events was refused. -/
theorem controllerStored_mem_iff_of_ne (horderly : progress.IsOrderly (plan options) state)
    (hfailed : progress.ending ≠ .ok ()) :
    .controllerStored ∈ progress.passed ↔ progress.passed = groundwork options := by
  rw [controllerStored_mem_iff horderly]
  constructor
  · intro hdone
    rcases List.prefix_concat_iff.mp horderly.passed with hall | hmost
    · exact absurd (horderly.complete.mpr hall) hfailed
    · exact hmost.eq_of_length_le hdone.length_le
  · intro hpassed
    simp [hpassed]

end Arming

/-- How far an attempt gets to arm an agent with an option text. -/
def Jvm.Machine.attempt (J : Machine) (text : String) (state : J.State) : Progress J.State :=
  match (Options.read text).1 with
  | .error error => ⟨⟨.error (.options error), [], state⟩, []⟩
  | .ok options => J.follow (Arming.plan options) state

theorem Jvm.Machine.attempt_of_error {text : String} {error : OptionError}
    (hread : (Options.read text).1 = .error error) (state : J.State) :
    J.attempt text state = ⟨⟨.error (.options error), [], state⟩, []⟩ := by
  rw [attempt, hread]

theorem Jvm.Machine.attempt_of_ok {text : String} {options : Options}
    (hread : (Options.read text).1 = .ok options) (state : J.State) :
    J.attempt text state = J.follow (Arming.plan options) state := by
  rw [attempt, hread]

/-- What holds of every attempt with an option text. It ends well just if the text can be read and
the machine lets all stages pass, and events are enabled on top of all the other stages. -/
structure Jvm.Progress.IsAttempt (text : String) (state : J.State) (progress : Progress J.State) :
    Prop where
  idle : ∀ {error}, (Options.read text).1 = .error error →
    progress.calls = [] ∧ progress.passed = []
  orderly : ∀ {options}, (Options.read text).1 = .ok options →
    progress.IsOrderly (Arming.plan options) state
  ending : progress.ending = .ok () ↔
    ∃ options, (Options.read text).1 = .ok options ∧ J.LetsPass (Arming.plan options) state
  tagging : ∀ {can}, .command (.addCapabilities can) ∈ progress.calls →
    can = true ∧ ∃ options, (Options.read text).1 = .ok options ∧ options.heapHistogram = true
  enabling : ∀ {enable event oneThread},
    .command (.setEventNotificationMode enable event oneThread) ∈ progress.calls →
      (enable = true ∧ event = exhaustionEvent ∧ oneThread = false) ∧
        ∃ options, (Options.read text).1 = .ok options ∧
          Arming.groundwork options <+: progress.passed ∧
          (.command (.addCapabilities true) ∈ progress.calls ↔ options.heapHistogram = true)

theorem Jvm.Machine.attempt_isAttempt (text : String) (state : J.State) :
    (J.attempt text state).IsAttempt text state := by
  cases hread : (Options.read text).1 with
  | error error =>
      rw [Machine.attempt_of_error hread]
      constructor <;> simp [hread]
  | ok options =>
      have horderly := J.follow_isOrderly (Arming.plan options) state
      rw [Machine.attempt_of_ok hread]
      constructor
      case idle => simp [hread]
      case orderly => simpa [hread] using horderly
      case ending => simpa [hread] using horderly.ending
      case tagging =>
        intro can hcall
        obtain ⟨hcan, hhistogram⟩ := Arming.tagging_of_call horderly hcall
        exact ⟨hcan, options, hread, hhistogram⟩
      case enabling =>
        intro enable event oneThread hcall
        obtain ⟨hevent, hdone⟩ := Arming.groundwork_of_call horderly hcall
        refine ⟨hevent, options, hread, hdone, ?_⟩
        constructor
        · intro htagging
          exact (Arming.tagging_of_call horderly htagging).2
        · intro hhistogram
          have hpassed : .taggingAllowed ∈ (J.follow (Arming.plan options) state).passed :=
            hdone.subset (by simp [Arming.groundwork, hhistogram])
          exact horderly.made.subset (List.mem_filterMap.mpr ⟨_, hpassed, rfl⟩)

end ExhaustionGuard
