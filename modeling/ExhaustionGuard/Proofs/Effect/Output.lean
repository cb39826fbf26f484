import ExhaustionGuard.Effect
import Mathlib.Data.List.Induction

/-! # Output in a trace

The bytes of a trace come one write after another. All of them have been flushed
when a flush has succeeded, and this stays so until more bytes are written.
-/

namespace ExhaustionGuard

namespace Trace

@[simp]
theorem bytes_append (first second : List Event) :
    bytes (first ++ second) = bytes first ++ bytes second := by
  simp [bytes]

theorem bytes_flatMap {ι : Type} (list : List ι) (trace : ι → List Event) :
    bytes (list.flatMap trace) = list.flatMap fun item => bytes (trace item) := by
  induction list with
  | nil => rfl
  | cons item rest ih => rw [List.flatMap_cons, bytes_append, ih, List.flatMap_cons]

@[simp]
theorem bytes_logged (lines : List LogLine) : bytes (lines.map .logged) = [] := by
  induction lines with
  | nil => rfl
  | cons line rest ih => exact ih

@[simp]
theorem bytes_madeDirectory (places : List (List String)) :
    bytes (places.map .madeDirectory) = [] := by
  induction places with
  | nil => rfl
  | cons place rest ih => exact ih

/-! ## Flushed output -/

/-- Every byte of a trace was written before a flush that succeeded. -/
def IsFlushed (trace : List Event) : Prop :=
  flushed trace = (bytes trace).length

instance (trace : List Event) : Decidable (IsFlushed trace) :=
  inferInstanceAs (Decidable (_ = _))

theorem progress_concat (trace : List Event) (event : Event) :
    progress (trace ++ [event]) = (progress trace).step event := by
  simp [progress]

theorem written_progress (trace : List Event) :
    (progress trace).written = (bytes trace).length := by
  -- progress is read from the left, so a trace grows at its end here
  induction trace using List.reverseRecOn with
  | nil => rfl
  | append_singleton trace event ih =>
      rw [progress_concat, bytes_append, List.length_append, ← ih]
      cases event with
      | wrote written => simp [Progress.step, bytes]
      | flushed succeeded => cases succeeded <;> rfl
      | _ => rfl

theorem isFlushed_concat (trace : List Event) : IsFlushed (trace ++ [.flushed true]) := by
  have hbytes : bytes [.flushed true] = [] := rfl
  rw [IsFlushed, flushed, progress_concat, bytes_append, hbytes, List.append_nil]
  exact written_progress trace

/-- What is flushed stays flushed as long as nothing is written. -/
theorem IsFlushed.append {trace later : List Event} (hflushed : IsFlushed trace)
    (hlater : bytes later = []) : IsFlushed (trace ++ later) := by
  induction later using List.reverseRecOn with
  | nil => rwa [List.append_nil]
  | append_singleton later event ih =>
      rw [bytes_append, List.append_eq_nil_iff] at hlater
      have hbefore := ih hlater.1
      rw [← List.append_assoc, IsFlushed, flushed, progress_concat, bytes_append, hlater.2,
        List.append_nil]
      cases event with
      | flushed succeeded =>
          cases succeeded with
          | true => exact written_progress _
          | false => exact hbefore
      | _ => exact hbefore

theorem isFlushed_append_cons (before : List Event) {later : List Event}
    (hlater : bytes later = []) : IsFlushed (before ++ .flushed true :: later) := by
  rw [List.append_cons]
  exact (isFlushed_concat before).append hlater

end Trace

end ExhaustionGuard
