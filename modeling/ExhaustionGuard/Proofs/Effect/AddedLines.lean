import ExhaustionGuard.Effect

/-! # Traces with more lines

Two runs may do the same and yet log different lines. Where one trace has only
more log lines than another, everything that is read off a trace apart from its
log is read off both alike.
-/

namespace ExhaustionGuard

namespace Trace

/-- The second trace has these log lines more than the first one, and is otherwise the same. -/
inductive AddsLines : List LogLine → List Event → List Event → Prop
  | nil : AddsLines [] [] []
  | same {lines : List LogLine} {before after : List Event} (event : Event) :
      AddsLines lines before after → AddsLines lines (event :: before) (event :: after)
  | line {lines : List LogLine} {before after : List Event} (line : LogLine) :
      AddsLines lines before after → AddsLines (line :: lines) before (.logged line :: after)

/-- What happens in a trace apart from logging. -/
def deeds (trace : List Event) : List Event :=
  trace.filter fun
    | .logged _ => false
    | _ => true

theorem bytes_deeds (trace : List Event) : bytes (deeds trace) = bytes trace := by
  induction trace with
  | nil => rfl
  | cons event rest ih =>
      cases event with
      | logged line => exact ih
      | wrote written => exact congrArg (written ++ ·) ih
      | _ => exact ih

theorem progress_deeds (trace : List Event) : progress (deeds trace) = progress trace := by
  have hfold : ∀ start : Progress,
      (deeds trace).foldl Progress.step start = trace.foldl Progress.step start := by
    intro start
    induction trace generalizing start with
    | nil => rfl
    | cons event rest ih => cases event <;> exact ih _
  exact hfold _

namespace AddsLines

variable {lines more : List LogLine} {before after first second : List Event}

theorem prepend (trace : List Event) (hadds : AddsLines lines before after) :
    AddsLines lines (trace ++ before) (trace ++ after) := by
  induction trace with
  | nil => exact hadds
  | cons event rest ih => exact .same event ih

theorem deeds_eq (hadds : AddsLines lines before after) : deeds after = deeds before := by
  induction hadds with
  | nil => rfl
  | same event _ ih => cases event <;> simp_all [deeds]
  | line line _ ih => exact ih

theorem bytes_eq (hadds : AddsLines lines before after) : bytes after = bytes before := by
  rw [← bytes_deeds, hadds.deeds_eq, bytes_deeds]

theorem progress_eq (hadds : AddsLines lines before after) :
    progress after = progress before := by
  rw [← progress_deeds, hadds.deeds_eq, progress_deeds]

theorem mem (hadds : AddsLines lines before after) {event : Event} (hevent : event ∈ after) :
    event ∈ before ∨ ∃ line, event = .logged line := by
  induction hadds with
  | nil => exact .inl hevent
  | same first _ ih =>
      rcases List.mem_cons.mp hevent with rfl | hrest
      · exact .inl List.mem_cons_self
      · exact (ih hrest).imp_left (List.mem_cons_of_mem _)
  | line line _ ih =>
      rcases List.mem_cons.mp hevent with rfl | hrest
      · exact .inr ⟨line, rfl⟩
      · exact ih hrest

theorem log_perm (hadds : AddsLines lines before after) :
    (log after).Perm (lines ++ log before) := by
  induction hadds with
  | nil => exact .nil
  | same event _ ih =>
      cases event with
      | logged line => exact (ih.cons line).trans List.perm_middle.symm
      | _ => exact ih
  | line line _ ih => exact ih.cons line

end AddsLines

end Trace

end ExhaustionGuard
