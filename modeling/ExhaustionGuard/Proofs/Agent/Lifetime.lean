import ExhaustionGuard.Agent.Registry
import ExhaustionGuard.Log.Filter
import ExhaustionGuard.Proofs.Agent.Loading

/-! # The life of a process with its agent

A process is entered by loads, unloads and events, in any order. Between two
entries machine, output and clock go on as they like, but nobody else touches
the registry. Only the first load can succeed: the later ones find the place
taken, and the agent is armed by the load that took it or never.
-/

namespace ExhaustionGuard

open Jvm Arming Agent

variable {J : Machine} {κ : Type}

/-- Whether an entry is a load. -/
def Entry.IsLoad : Entry → Prop
  | .load _ => True
  | _ => False

namespace Registry

/-- An entry into a process, with the registry that it found. -/
structure Visit (J : Machine) (κ : Type) where
  entry : Entry
  before : Registry (Deployment J κ)

/-- What a visit does. -/
def Visit.run (hooks : Hooks (Deployment J κ)) (visit : Visit J κ) :
    Run (Registry (Deployment J κ)) (Option Int) :=
  (enter hooks visit.entry).run visit.before

/-- Between two visits the place of the agent and the agent itself stay as they are. -/
structure Keeps (before after : Registry (Deployment J κ)) : Prop where
  hasAgent : after.hasAgent = before.hasAgent
  agent : after.state.agent = before.state.agent

/-- The visits of a process since its start, and the registry after them. -/
inductive Life (hooks : Hooks (Deployment J κ)) (first : Registry (Deployment J κ)) :
    List (Visit J κ) → Registry (Deployment J κ) → Prop
  | starts : Life hooks first [] first
  | goesOn {visits before after} :
      Life hooks first visits before → Keeps before after → Life hooks first visits after
  | entered {visits before} :
      Life hooks first visits before → ∀ entry,
        Life hooks first (visits ++ [⟨entry, before⟩]) (Visit.run hooks ⟨entry, before⟩).state

variable {hooks : Hooks (Deployment J κ)} {first registry : Registry (Deployment J κ)}
  {visits : List (Visit J κ)}

/-- Each visit finds the registry that the visits before it have led to. -/
theorem Life.before_visit (hlife : Life hooks first visits registry)
    {earlier later : List (Visit J κ)} {visit : Visit J κ}
    (hvisits : visits = earlier ++ visit :: later) : Life hooks first earlier visit.before := by
  induction hlife generalizing later with
  | starts => simp at hvisits
  | goesOn _ _ ih => exact ih hvisits
  | entered hbefore entry ih =>
      -- the visit is the last one, or it belongs to the life before the last one
      rcases List.eq_nil_or_concat later with rfl | ⟨between, last, rfl⟩
      · obtain ⟨rfl, hvisit⟩ := List.append_inj' hvisits rfl
        obtain rfl := List.singleton_inj.mp hvisit
        exact hbefore
      · rw [List.concat_eq_append, ← List.cons_append, ← List.append_assoc] at hvisits
        exact ih (List.append_inj' hvisits rfl).1

theorem run_load_taken (htaken : registry.hasAgent = true) (options : Option Text.Bytes) :
    (load hooks options).run registry = ⟨.ok notLoaded, registry, []⟩ := by
  obtain ⟨_, state⟩ := registry
  obtain rfl : _ = true := htaken
  rfl

theorem run_load_vacant (hvacant : registry.hasAgent = false) (options : Option Text.Bytes) :
    (load hooks options).run registry =
      let run := (hooks.load (optionText options)).run registry.state
      ⟨.ok (run.ending.toOption.getD notLoaded), ⟨true, run.state⟩, run.trace⟩ := by
  obtain ⟨_, state⟩ := registry
  obtain rfl : _ = false := hvacant
  simp only [Effect.run, load, takeAgent, contained]
  cases (hooks.load (optionText options) state).ending <;> rfl

theorem run_entering (effect : Effect (Deployment J κ) Unit) :
    (entering effect).run registry =
      if registry.hasAgent then
        ⟨.ok (), ⟨true, (effect.run registry.state).state⟩, (effect.run registry.state).trace⟩
      else ⟨.ok (), registry, []⟩ := by
  obtain ⟨hasAgent, state⟩ := registry
  cases hasAgent <;> rfl

/-- A process has an agent once it was entered by a load. -/
theorem hasAgent_run (hooks : Hooks (Deployment J κ)) (visit : Visit J κ) :
    (visit.run hooks).state.hasAgent = true ↔
      visit.before.hasAgent = true ∨ visit.entry.IsLoad := by
  obtain ⟨entry, before⟩ := visit
  cases entry with
  | load options =>
      simp only [Visit.run, enter, Effect.run_bind, Entry.IsLoad]
      cases hhas : before.hasAgent with
      | true => simp [run_load_taken hhas, hhas]
      | false => simp [run_load_vacant hhas]
  | _ =>
      simp only [Visit.run, enter, Effect.run_bind, run_entering, Entry.IsLoad]
      cases hhas : before.hasAgent <;> simp [hhas]

/-- Until a process has an agent, only a load changes anything. -/
theorem run_vacant {visit : Visit J κ} (hvacant : visit.before.hasAgent = false)
    (hentry : ¬ visit.entry.IsLoad) : visit.run hooks = ⟨.ok none, visit.before, []⟩ := by
  obtain ⟨entry, before⟩ := visit
  cases entry with
  | load options => exact absurd trivial hentry
  | _ => simp_all [Visit.run, enter, Effect.run_bind, run_entering]

theorem Life.hasAgent_iff (hlife : Life hooks first visits registry)
    (hfirst : first.hasAgent = false) :
    registry.hasAgent = true ↔ ∃ visit ∈ visits, visit.entry.IsLoad := by
  induction hlife with
  | starts => simp [hfirst]
  | goesOn _ hkeeps ih => rw [hkeeps.hasAgent, ih]
  | entered _ entry ih =>
      rw [hasAgent_run, ih]
      simp [or_and_right, exists_or]

/-- Before the first load the agent is the one that the process started with. -/
theorem Life.agent_of_vacant (hlife : Life hooks first visits registry)
    (hvacant : registry.hasAgent = false) : registry.state.agent = first.state.agent := by
  induction hlife with
  | starts => rfl
  | goesOn _ hkeeps ih => rw [hkeeps.agent, ih (hkeeps.hasAgent ▸ hvacant)]
  | @entered visits before _ entry ih =>
      have hneither := mt (hasAgent_run hooks ⟨entry, before⟩).mpr (by simp [hvacant])
      obtain ⟨hbefore, hentry⟩ := not_or.mp hneither
      have hbefore : before.hasAgent = false := by simpa using hbefore
      rw [run_vacant hbefore hentry]
      exact ih hbefore

variable {sink : Sink κ} {read : LogReader} {setting : Option String}

/-- The run of a first load, by how far its attempt gets. If reading the log setting panics, there
is no attempt. -/
def firstRun (read : LogReader) (setting : Option String) (before : Deployment J κ) (text : String)
    (progress : Progress J.State) : Run (Registry (Deployment J κ)) (Option Int) :=
  match read setting with
  | none => ⟨.ok (some notLoaded), ⟨true, before⟩, []⟩
  | some _ =>
      let after : Deployment J κ :=
        { before with
          agent := armedBy text progress.passed
          world := { before.world with
            host := before.world.host.heard progress.calls progress.state } }
      ⟨.ok (some (outcome progress.ending).1), ⟨true, after⟩,
        (Arming.notes J κ text progress ++ (outcome progress.ending).2).map .logged⟩

theorem ending_firstRun (before : Deployment J κ) (text : String) (progress : Progress J.State) :
    (firstRun read setting before text progress).ending = .ok (some loaded) ↔
      (read setting).isSome = true ∧ progress.ending = .ok () := by
  unfold firstRun
  cases hsetting : read setting with
  | none => simp [loaded, notLoaded]
  | some shows => simp [← outcome_eq_loaded]

theorem run_first_load (sink : Sink κ) (read : LogReader) (setting : Option String)
    {visit : Visit J κ} (hvacant : visit.before.hasAgent = false) (hunarmed : visit.before.state.agent = unarmed)
    {options : Option Text.Bytes} (hentry : visit.entry = .load options) :
    visit.run ((Agent.hooks sink).withLogSetting read setting) =
      firstRun read setting visit.before.state (optionText options)
        (J.attempt (optionText options) visit.before.state.world.host.state) := by
  simp only [Visit.run, hentry, enter, Effect.run_bind, run_load_vacant hvacant, firstRun]
  cases hsetting : read setting with
  | none =>
      simp only [Hooks.withLogSetting, hsetting]
      rfl
  | some shows =>
      simp only [Hooks.withLogSetting, hsetting, Agent.hooks, run_load hunarmed]
      simp [Except.toOption]

theorem run_again {visit : Visit J κ} (htaken : visit.before.hasAgent = true)
    (hentry : visit.entry.IsLoad) : visit.run hooks = ⟨.ok (some notLoaded), visit.before, []⟩ := by
  obtain ⟨entry, before⟩ := visit
  cases entry with
  | load options =>
      simp only [Visit.run, enter, Effect.run_bind, run_load_taken htaken]
      rfl
  | unload | exhausted => exact hentry.elim

@[simp]
theorem unload_withLogSetting (hooks : Hooks (Deployment J κ)) :
    (hooks.withLogSetting read setting).unload = hooks.unload := by
  unfold Hooks.withLogSetting
  split <;> rfl

@[simp]
theorem exhausted_withLogSetting (hooks : Hooks (Deployment J κ)) :
    (hooks.withLogSetting read setting).exhausted = hooks.exhausted := by
  unfold Hooks.withLogSetting
  split <;> rfl

theorem run_unload {visit : Visit J κ} (hentry : visit.entry = .unload) :
    visit.run ((Agent.hooks sink).withLogSetting read setting) = ⟨.ok none, visit.before, []⟩ := by
  obtain ⟨entry, ⟨hasAgent, state⟩⟩ := visit
  obtain rfl : entry = .unload := hentry
  cases hasAgent <;> simp [Visit.run, enter, Effect.run_bind, run_entering, Agent.hooks]

theorem run_ignored {visit : Visit J κ} (hunarmed : visit.before.state.agent.controller = none)
    {event : Exhaustion} {description : Option Text.Bytes}
    (hentry : visit.entry = .exhausted event description) :
    visit.run ((Agent.hooks sink).withLogSetting read setting) = ⟨.ok none, visit.before, []⟩ := by
  obtain ⟨entry, ⟨hasAgent, state⟩⟩ := visit
  obtain rfl : entry = .exhausted event description := hentry
  have hignored := run_exhausted_unarmed hunarmed sink event description
  cases hasAgent <;>
    simp [Visit.run, enter, Effect.run_bind, run_entering, Agent.hooks, hignored]

/-- How a visit goes, given the log setting of the process and whether it was loaded before. -/
structure Visit.Conforms (read : LogReader) (setting : Option String) (hadLoad : Prop)
    (visit : Visit J κ) (run : Run (Registry (Deployment J κ)) (Option Int)) : Prop where
  /-- Every load but the first is refused, and it changes nothing. -/
  again : hadLoad → visit.entry.IsLoad → run = ⟨.ok (some notLoaded), visit.before, []⟩
  /-- The first load finds an agent that is not armed, and does what the attempt to arm it does. -/
  attempts : ¬ hadLoad → ∀ options, visit.entry = .load options →
    let text := optionText options
    let state := visit.before.state.world.host.state
    let progress := J.attempt text state
    visit.before.state.agent = unarmed ∧ progress.IsAttempt text state ∧
      run = firstRun read setting visit.before.state text progress ∧
      (run.ending = .ok (some loaded) ↔
        (read setting).isSome = true ∧ progress.ending = .ok ())
  /-- Events have no effect before a controller is stored. -/
  ignores : ¬ hadLoad ∨ visit.before.state.agent.controller = none →
    ∀ event description, visit.entry = .exhausted event description →
      run = ⟨.ok none, visit.before, []⟩
  unloads : visit.entry = .unload → run = ⟨.ok none, visit.before, []⟩

/-- Whatever the machine answers and in whatever order it enters the process, no load but the first
succeeds, and the first one does just if it passes every stage. -/
theorem life_conforms {deployment : Deployment J κ} (hunarmed : deployment.agent = unarmed)
    {visits : List (Visit J κ)} {registry : Registry (Deployment J κ)}
    (hlife : Life ((Agent.hooks sink).withLogSetting read setting) (start deployment) visits
      registry)
    {earlier later : List (Visit J κ)} {visit : Visit J κ}
    (hvisits : visits = earlier ++ visit :: later) :
    visit.Conforms read setting (∃ previous ∈ earlier, previous.entry.IsLoad)
      (visit.run ((Agent.hooks sink).withLogSetting read setting)) := by
  have hbefore := hlife.before_visit hvisits
  have hhas := hbefore.hasAgent_iff rfl
  have hvacant (hfirst : ¬ ∃ previous ∈ earlier, previous.entry.IsLoad) :
      visit.before.hasAgent = false := by
    simpa using mt hhas.mp hfirst
  constructor
  case again =>
    intro hloaded hentry
    exact run_again (hhas.mpr hloaded) hentry
  case attempts =>
    intro hfirst options hentry
    have hidle : visit.before.state.agent = unarmed :=
      (hbefore.agent_of_vacant (hvacant hfirst)).trans hunarmed
    have hrun := run_first_load sink read setting (hvacant hfirst) hidle hentry
    refine ⟨hidle, J.attempt_isAttempt _ _, hrun, ?_⟩
    rw [hrun]
    exact ending_firstRun _ _ _
  case ignores =>
    intro hearly event description hentry
    rcases hearly with hfirst | hunarmed
    · exact run_vacant (hvacant hfirst) (by simp [hentry, Entry.IsLoad])
    · exact run_ignored hunarmed hentry
  case unloads => exact run_unload

theorem life_conforms_obliging :
    let hooks := (Agent.hooks LimitedSink.operations).withLogSetting LogFilter.reader none
    (Scripted.deployed Scripted.obliging).agent = unarmed ∧
      ∃ earlier visit registry,
        Life hooks (start (Scripted.deployed Scripted.obliging)) (earlier ++ [visit]) registry ∧
        (earlier ++ [visit]).map Visit.entry =
          [.exhausted .javaHeap none, .load (some "count=3".toUTF8.toList),
            .exhausted .javaHeap none, .unload, .load none] ∧
        (earlier ++ [visit]).map (fun visit => (visit.run hooks).ending) =
          [.ok none, .ok (some loaded), .ok none, .ok none, .ok (some notLoaded)] ∧
        visit.Conforms LogFilter.reader none (∃ previous ∈ earlier, previous.entry.IsLoad)
          (visit.run hooks) := by
  intro hooks
  have hlife : Life hooks (start (Scripted.deployed Scripted.obliging)) _ _ :=
    .entered (.entered (.entered (.entered (.entered .starts (.exhausted .javaHeap none))
      (.load (some "count=3".toUTF8.toList))) (.exhausted .javaHeap none)) .unload) (.load none)
  exact ⟨rfl, _, _, _, hlife, rfl, by decide +kernel, life_conforms rfl hlife rfl⟩

end Registry

end ExhaustionGuard
