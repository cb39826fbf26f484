import ExhaustionGuard.Controller
import ExhaustionGuard.Proofs.Window.Ring
import Mathlib.Data.List.Pairwise

/-! # Windows and whole histories

A window forgets all but its latest readings, and its arithmetic stops at the
ends of a word. Neither can be observed: along readings that never go back it
decides as if it counted over the whole history in exact integers.
-/

namespace ExhaustionGuard.Window

/-- How many events of a history lie in the last so many seconds, in exact integers. -/
def recent (seconds : Nat) (history : List Nat) (now : Nat) : Nat :=
  history.countP fun reading : Nat => decide ((now : Int) - reading ≤ 1000 * seconds)

/-- The elements of an ascending list beyond a bound stand at its end, so counting them among
the last few elements misses none unless all of these are counted. -/
theorem countP_drop_of_ascending {history : List Nat} (hascending : history.Pairwise (· ≤ ·))
    (cutoff count : Nat) :
    (history.drop (history.length - count)).countP (fun reading => cutoff ≤ reading) =
      min (history.countP fun reading => cutoff ≤ reading) count := by
  have hsplit := List.take_append_drop (history.length - count) history
  have hlength : (history.drop (history.length - count)).length = min history.length count := by
    rw [List.length_drop]
    omega
  generalize history.take (history.length - count) = early at hsplit
  generalize history.drop (history.length - count) = late at hsplit hlength
  subst hsplit
  rw [List.countP_append]
  -- either every late element counts, or no early one does
  by_cases hlate : ∀ reading ∈ late, cutoff ≤ reading
  · have hall : late.countP (fun reading => decide (cutoff ≤ reading)) = late.length := by
      rw [List.countP_eq_length]
      simpa using hlate
    have hbound := early.countP_le_length (p := fun reading => decide (cutoff ≤ reading))
    simp only [List.length_append] at hlength
    omega
  · push Not at hlate
    obtain ⟨missed, hmissed, hbelow⟩ := hlate
    have hnone : early.countP (fun reading => decide (cutoff ≤ reading)) = 0 := by
      rw [List.countP_eq_zero]
      intro reading hreading
      have hle := (List.pairwise_append.mp hascending).2.2 reading hreading missed hmissed
      simpa using lt_of_le_of_lt hle hbelow
    have hbound := late.countP_le_length (p := fun reading => decide (cutoff ≤ reading))
    omega

@[simp]
theorem limit_after (window : Window) (readings : List Nat) :
    (window.after readings).limit = window.limit := by
  induction readings generalizing window with
  | nil => rfl
  | cons now rest ih => exact ih _

@[simp]
theorem span_after (window : Window) (readings : List Nat) :
    (window.after readings).span = window.span := by
  induction readings generalizing window with
  | nil => rfl
  | cons now rest ih => exact ih _

theorem after_append (window : Window) (first second : List Nat) :
    window.after (first ++ second) = (window.after first).after second :=
  List.foldl_append

/-- Saturation is exact: where the span of a window stops at a word, so does every distance of
two readings. -/
theorem cutoff_le_iff {seconds now reading : Nat} (hword : now ≤ wordMax) :
    now - (empty seconds 0).span ≤ reading ↔ (now : Int) - reading ≤ 1000 * seconds := by
  simp only [empty]
  omega

theorem countInside_record_after {seconds limit : Nat} (hlimit : limit < wordMax)
    {past : List Nat} {now : Nat} (hword : now ≤ wordMax)
    (hascending : (past ++ [now]).Pairwise (· ≤ ·)) :
    (((empty seconds limit).after past).record now).countInside now =
      min (recent seconds (past ++ [now]) now) (limit + 1) := by
  have holds := (after_remembers seconds limit past).record now
  have hcapacity : (((empty seconds limit).after past).record now).capacity = limit + 1 := by
    simp only [capacity, record, limit_after, empty]
    omega
  have hspan : (((empty seconds limit).after past).record now).span = (empty seconds 0).span := by
    simp [record, empty]
  rw [holds.countInside_eq, hcapacity, hspan, countP_drop_of_ascending hascending, recent]
  congr 1
  apply List.countP_congr
  intro reading _
  simpa using cutoff_le_iff hword

theorem onEvent_after {seconds limit : Nat} (hlimit : limit < wordMax) {past : List Nat}
    {now : Nat} (hword : now ≤ wordMax) (hascending : (past ++ [now]).Pairwise (· ≤ ·)) :
    ((empty seconds limit).after past).onEvent now =
      (⟨decide (limit < recent seconds (past ++ [now]) now),
        min (recent seconds (past ++ [now]) now) (limit + 1)⟩,
        (empty seconds limit).after (past ++ [now])) := by
  have hinside : (((empty seconds limit).after past).record now).countInside now = _ :=
    countInside_record_after hlimit hword hascending
  have hempty : ((empty seconds limit).after past).limit = limit := by simp [empty]
  have hfires : limit < min (recent seconds (past ++ [now]) now) (limit + 1) ↔
      limit < recent seconds (past ++ [now]) now := by omega
  simp only [onEvent, hinside, hempty, hfires, after_append]
  rfl

theorem decide_after (seconds : Nat) {limit : Nat} (hlimit : limit < wordMax) {past : List Nat}
    {now : Nat} (hword : now ≤ wordMax) (hascending : (past ++ [now]).Pairwise (· ≤ ·)) :
    let inside := recent seconds (past ++ [now]) now
    (Heuristic.window ((empty seconds limit).after past)).decide now =
      (decide (limit < inside),
        [⟨.info, .window, s!"ResourceExhausted! ({min inside (limit + 1)}/{limit})", []⟩],
        .window ((empty seconds limit).after (past ++ [now]))) := by
  intro inside
  have hverdict : ((empty seconds limit).after past).onEvent now = _ :=
    onEvent_after hlimit hword hascending
  simp only [Heuristic.decide, hverdict, Heuristic.windowLine, limit_after]
  rfl

/-- Along readings that never go back, each event fires and is reported as if the window had
counted over the whole history in exact integers; no more than one event beyond the limit is ever
reported, since no more than that is remembered. -/
theorem decide_eq_whole_history {seconds limit : Nat} (hlimit : limit < wordMax)
    {readings : List Nat} (hword : ∀ reading ∈ readings, reading ≤ wordMax)
    (hascending : readings.Pairwise (· ≤ ·)) (event : Nat) (hevent : event < readings.length) :
    let inside := recent seconds (readings.take (event + 1)) readings[event]
    (Heuristic.window ((empty seconds limit).after (readings.take event))).decide
        readings[event] =
      (decide (limit < inside),
        [⟨.info, .window, s!"ResourceExhausted! ({min inside (limit + 1)}/{limit})", []⟩],
        .window ((empty seconds limit).after (readings.take (event + 1)))) := by
  intro inside
  have hhistory : readings.take (event + 1) = readings.take event ++ [readings[event]] :=
    List.take_succ_eq_append_getElem hevent
  have hpast : (readings.take event ++ [readings[event]]).Pairwise (· ≤ ·) :=
    hhistory ▸ hascending.sublist (List.take_sublist _ _)
  have hdecides := decide_after seconds hlimit (hword _ (List.getElem_mem hevent)) hpast
  rwa [← hhistory] at hdecides

/-- The second event falls on the very edge of the window. -/
theorem decide_whole_history_at_the_edge :
    (Heuristic.window ((empty 1 1).after [5])).decide 1005 =
      (true, [⟨.info, .window, "ResourceExhausted! (2/1)", []⟩],
        .window ((empty 1 1).after [5, 1005])) := by
  have hinside : recent 1 [5, 1005] 1005 = 2 := by decide
  have hword : ∀ reading ∈ [5, 1005, 1006], reading ≤ wordMax := by decide
  have htext : s!"ResourceExhausted! ({2}/{1})" = "ResourceExhausted! (2/1)" := by decide
  have hdecides : (Heuristic.window ((empty 1 1).after [5])).decide 1005 = _ :=
    decide_eq_whole_history (by decide) hword (by decide) 1 (by decide)
  rw [← htext]
  simpa [hinside] using hdecides

end ExhaustionGuard.Window
