import ExhaustionGuard.Proofs.Action.Composition

/-! # Events of the actions

A bound on the events that an effect may leave holds of each of its runs,
wherever it may stop. On any host and any output, the agent's own actions leave
no other events than those of their kind, and so no ERROR line.
-/

namespace ExhaustionGuard

namespace Trace

/-- The ERROR lines of a trace. -/
def errors (trace : List Event) : List LogLine :=
  (log trace).filter fun line => line.level = .error

@[simp]
theorem errors_append (first second : List Event) :
    errors (first ++ second) = errors first ++ errors second := by
  simp [errors, log, List.filterMap_append]

theorem errors_flatMap {α : Type} (list : List α) (trace : α → List Event) :
    errors (list.flatMap trace) = list.flatMap fun item => errors (trace item) := by
  induction list with
  | nil => rfl
  | cons item rest ih => simp [ih]

theorem errors_logged {lines : List LogLine} (hlines : ∀ line ∈ lines, line.level = .error) :
    errors (lines.map .logged) = lines := by
  have hlog : log (lines.map .logged) = lines := by
    induction lines with
    | nil => rfl
    | cons line rest ih =>
        have hrest := ih fun line hline => hlines line (List.mem_cons_of_mem _ hline)
        exact congrArg (line :: ·) hrest
  rw [errors, hlog]
  simpa using hlines

theorem errors_eq_nil {trace : List Event}
    (htrace : ∀ line, .logged line ∈ trace → line.level ≠ .error) : errors trace = [] := by
  induction trace with
  | nil => rfl
  | cons event rest ih =>
      have hrest := ih fun line hline => htrace line (List.mem_cons_of_mem _ hline)
      rw [← List.singleton_append, errors_append, hrest, List.append_nil]
      cases event with
      | logged line => simpa [errors, log] using htrace line List.mem_cons_self
      | _ => rfl

end Trace

namespace Effect

variable {ω α β : Type}

/-- Whatever becomes of an effect, it leaves no other events than these. -/
def Emits (effect : Effect ω α) (allowed : Event → Prop) : Prop :=
  ∀ state, ∀ event ∈ (effect.run state).trace, allowed event

variable {effect : Effect ω α} {next : α → Effect ω β} {allowed : Event → Prop}

theorem Emits.of_trace (htrace : ∀ state, (effect.run state).trace = []) :
    effect.Emits allowed := by
  intro state event hevent
  rw [htrace] at hevent
  exact absurd hevent List.not_mem_nil

theorem Emits.bind (hfirst : effect.Emits allowed) (hnext : ∀ value, (next value).Emits allowed) :
    (effect >>= next).Emits allowed := by
  intro state event hevent
  rw [run_bind] at hevent
  split at hevent
  next => exact hfirst state event hevent
  next value _ =>
    rcases List.mem_append.mp hevent with hevent | hevent
    · exact hfirst state event hevent
    · exact hnext value _ event hevent

theorem emits_pure (value : α) : (pure value : Effect ω α).Emits allowed :=
  .of_trace fun _ => rfl

theorem emits_stop (reason : Stop) : (stop reason : Effect ω α).Emits allowed :=
  .of_trace fun _ => rfl

theorem emits_emit {event : Event} (hevent : allowed event) :
    (emit event : Effect ω Unit).Emits allowed := by
  intro state other hother
  obtain rfl := List.mem_singleton.mp hother
  exact hevent

end Effect

open Effect

variable {σ κ : Type}

theorem closed_emits (around : Surroundings σ κ) (may : Event → Prop) :
    Closed around may fun effect => effect.Emits may where
  pure := emits_pure
  stop := emits_stop
  bind := Emits.bind
  get := fun _ hnext => .bind (.of_trace fun _ => rfl) hnext
  note := fun _ hevent => emits_emit hevent
  writeBytes := by
    intro hwrote bytes world event hevent
    by_cases hbytes : bytes = []
    · subst hbytes
      rw [around.run_writeBytes_nil] at hevent
      exact absurd hevent List.not_mem_nil
    · rw [around.run_writeBytes hbytes] at hevent
      obtain rfl := List.mem_singleton.mp hevent
      exact hwrote _
  tryFlush := by
    intro hflushed world event hevent
    obtain rfl := List.mem_singleton.mp hevent
    exact hflushed _
  attempt := fun operation => .of_trace fun world => by rw [World.run_attempt]
  raise := by
    intro signal hraised world event hevent
    rw [World.run_raise] at hevent
    obtain rfl := List.mem_singleton.mp hevent
    exact hraised _
  makeDirectory := by
    intro hmade steps world event hevent
    rw [World.run_makeDirectory] at hevent
    obtain ⟨place, _, rfl⟩ := List.mem_map.mp hevent
    exact hmade place

namespace Action

variable (around : Surroundings σ κ) (event : Exhaustion) {action : Action σ κ}

theorem emits_act (hplain : action.IsPlain around) :
    (action.act around event).Emits action.MayEmit :=
  (closed_emits around action.MayEmit).act hplain event

theorem errors_act (hplain : action.IsPlain around) (world : World σ κ) :
    Trace.errors ((action.act around event).run world).trace = [] := by
  apply Trace.errors_eq_nil
  intro line hline
  have hmay := emits_act around event hplain world _ hline
  cases action <;> exact hmay

end Action

end ExhaustionGuard
