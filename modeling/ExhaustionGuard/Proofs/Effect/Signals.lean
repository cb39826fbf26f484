import ExhaustionGuard.Effect
import Mathlib.Data.List.Basic

/-! # Signals of an effect

The signals in a trace stand in the order in which they were raised. An effect
may raise at most the signals of a list if that holds of each of its runs,
wherever it may stop.
-/

namespace ExhaustionGuard

namespace Trace

/-- The signal that an event raises. -/
def signal? : Event → Option Signal
  | .raised signal _ => some signal
  | _ => none

/-- The signals raised in a trace, in order. -/
def signals (trace : List Event) : List Signal :=
  trace.filterMap signal?

@[simp]
theorem signals_append (first second : List Event) :
    signals (first ++ second) = signals first ++ signals second :=
  List.filterMap_append

@[simp]
theorem signals_logged (lines : List LogLine) : signals (lines.map .logged) = [] := by
  induction lines with
  | nil => rfl
  | cons line rest ih => exact ih

end Trace

namespace Effect

variable {ω α β : Type}

theorem run_bind_of_ok {effect : Effect ω α} {state : ω} {value : α}
    (hok : (effect.run state).ending = .ok value) (next : α → Effect ω β) :
    (effect >>= next).run state =
      ⟨((next value).run (effect.run state).state).ending,
        ((next value).run (effect.run state).state).state,
        (effect.run state).trace ++ ((next value).run (effect.run state).state).trace⟩ := by
  rw [run_bind, hok]

theorem run_bind_of_error {effect : Effect ω α} {state : ω} {reason : Stop}
    (hstopped : (effect.run state).ending = .error reason) (next : α → Effect ω β) :
    (effect >>= next).run state =
      ⟨.error reason, (effect.run state).state, (effect.run state).trace⟩ := by
  rw [run_bind, hstopped]

theorem run_logAll_bind (lines : List LogLine) (next : Unit → Effect ω β) (state : ω) :
    (logAll lines >>= next).run state =
      ⟨((next ()).run state).ending, ((next ()).run state).state,
        lines.map .logged ++ ((next ()).run state).trace⟩ := rfl

/-- Whatever becomes of an effect, it raises no other signals than these, in their order. -/
def Raises (effect : Effect ω α) (signals : List Signal) : Prop :=
  ∀ state, (Trace.signals (effect.run state).trace).Sublist signals

namespace Raises

variable {effect : Effect ω α} {next : α → Effect ω β} {first second : List Signal}

theorem of_trace (htrace : ∀ state, Trace.signals (effect.run state).trace = []) :
    effect.Raises [] :=
  fun state => by rw [htrace state]

/-- An effect that stops raises only what it raised before. -/
theorem bind (hfirst : effect.Raises first) (hnext : ∀ value, (next value).Raises second) :
    (effect >>= next).Raises (first ++ second) := by
  intro state
  rw [run_bind]
  split
  next => exact (hfirst state).trans (List.sublist_append_left _ _)
  next value _ =>
    rw [Trace.signals_append]
    exact (hfirst state).append (hnext value _)

end Raises

theorem raises_pure (value : α) : (pure value : Effect ω α).Raises [] :=
  .of_trace fun _ => rfl

theorem raises_log (line : LogLine) : (log line : Effect ω Unit).Raises [] :=
  .of_trace fun _ => rfl

end Effect

end ExhaustionGuard
