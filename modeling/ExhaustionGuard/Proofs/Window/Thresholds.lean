import ExhaustionGuard.Controller
import ExhaustionGuard.Proofs.Window.Ring
import Mathlib.Data.List.Forall2

/-! # Thresholds of windows

A window fires just if its latest readings, one more than its limit, all lie in
its span. A lower limit asks for fewer of them and a longer span for less of
each, so a window with both fires wherever the stricter one does, also along
readings that go back.
-/

namespace ExhaustionGuard

/-- What a heuristic decides about one event after another. -/
def Heuristic.decisions : Heuristic → List Nat → List Bool
  | _, [] => []
  | heuristic, now :: rest =>
      (heuristic.decide now).1 :: (heuristic.decide now).2.2.decisions rest

namespace Window

theorem span_empty_mono {seconds seconds' : Nat} (hseconds : seconds ≤ seconds')
    (limit limit' : Nat) : (empty seconds limit).span ≤ (empty seconds' limit').span := by
  simp only [empty]
  omega

namespace Remembers

variable {window : Window} {history : List Nat}

/-- A window that is to fire has to remember one event more than its limit, and each of these has
to lie in its span. A window with the greatest limit cannot remember so many. -/
theorem fires_iff (holds : window.Remembers history) (now : Nat) :
    (window.onEvent now).1.fires = true ↔
      window.limit < wordMax ∧ window.limit ≤ history.length ∧
        ∀ reading ∈ (history ++ [now]).drop (history.length - window.limit),
          now - window.span ≤ reading := by
  have hinside := (holds.record now).countInside_eq now
  have hfires : (window.onEvent now).1.fires = true ↔
      window.limit < (window.record now).countInside now := decide_eq_true_iff
  have hspan : (window.record now).span = window.span := rfl
  rw [hfires, hinside, hspan, capacity_record, List.length_append, List.length_singleton]
  generalize hlatest : (history ++ [now]).drop (history.length + 1 - window.capacity) = latest
  have hlength : latest.length = min (history.length + 1) window.capacity := by
    rw [← hlatest, List.length_drop, List.length_append, List.length_singleton]
    omega
  have hcount := latest.countP_le_length (p := fun reading => decide (now - window.span ≤ reading))
  have hcapacity : window.capacity = min (window.limit + 1) wordMax := rfl
  constructor
  · intro hlimit
    -- more than the limit are inside, and no more than these are remembered
    have hsame : history.length + 1 - window.capacity = history.length - window.limit := by omega
    have hall : latest.countP (fun reading => decide (now - window.span ≤ reading)) =
        latest.length := by omega
    rw [hsame] at hlatest
    refine ⟨by omega, by omega, ?_⟩
    rw [hlatest]
    simpa using List.countP_eq_length.mp hall
  · rintro ⟨hword, hlimit, hall⟩
    have hsame : history.length + 1 - window.capacity = history.length - window.limit := by omega
    rw [← hsame, hlatest] at hall
    have hinside : latest.countP (fun reading => decide (now - window.span ≤ reading)) =
        latest.length := List.countP_eq_length.mpr (by simpa using hall)
    omega

/-- Two windows heard of the same events. Where the stricter one fires, so does the other. -/
theorem fires_mono {strict loose : Window} (hstrict : strict.Remembers history)
    (hloose : loose.Remembers history) (hspan : strict.span ≤ loose.span)
    (hlimit : loose.limit ≤ strict.limit) (now : Nat)
    (hfires : (strict.onEvent now).1.fires = true) : (loose.onEvent now).1.fires = true := by
  obtain ⟨hword, hlength, hall⟩ := (hstrict.fires_iff now).mp hfires
  refine (hloose.fires_iff now).mpr ⟨by omega, by omega, fun reading hreading => ?_⟩
  have hlate : reading ∈ (history ++ [now]).drop (history.length - strict.limit) :=
    List.drop_subset_drop_left _ (by omega) hreading
  have hinside := hall reading hlate
  omega

/-- What two windows decide about the events to come, once they have heard of the same ones. -/
theorem decisions_mono {strict loose : Window} (hstrict : strict.Remembers history)
    (hloose : loose.Remembers history) (hspan : strict.span ≤ loose.span)
    (hlimit : loose.limit ≤ strict.limit) (readings : List Nat) :
    List.Forall₂ (fun fires fires' => fires = true → fires' = true)
      ((Heuristic.window strict).decisions readings)
      ((Heuristic.window loose).decisions readings) := by
  induction readings generalizing strict loose history with
  | nil => exact .nil
  | cons now rest ih =>
      refine .cons (hstrict.fires_mono hloose hspan hlimit now) ?_
      exact ih (hstrict.record now) (hloose.record now) hspan hlimit

end Remembers

/-- A lower limit and a longer time can only add events that fire, whatever the readings. -/
theorem fires_wherever_stricter_fires {seconds seconds' limit limit' : Nat}
    (hseconds : seconds ≤ seconds') (hlimit : limit' ≤ limit) (readings : List Nat) :
    List.Forall₂ (fun fires fires' => fires = true → fires' = true)
      ((Heuristic.window (empty seconds limit)).decisions readings)
      ((Heuristic.window (empty seconds' limit')).decisions readings) :=
  (remembers_empty seconds limit).decisions_mono (remembers_empty seconds' limit')
    (span_empty_mono hseconds limit limit') hlimit readings

/-- The clock goes back three times, and both rings are overwritten by then. -/
theorem fires_wherever_stricter_fires_unsteady :
    let readings := [1000, 500, 2600, 1700, 4000, 900]
    let decisions := (Heuristic.window (empty 1 2)).decisions readings
    let decisions' := (Heuristic.window (empty 2 1)).decisions readings
    (1 ≤ 2 ∧ 1 ≤ 2) ∧ decisions = [false, false, false, false, false, true] ∧
      decisions' = [false, true, false, true, false, true] ∧
      List.Forall₂ (fun fires fires' => fires = true → fires' = true) decisions decisions' := by
  intro readings decisions decisions'
  refine ⟨by decide, by decide, by decide, ?_⟩
  exact fires_wherever_stricter_fires (by decide) (by decide) readings

end Window

end ExhaustionGuard
