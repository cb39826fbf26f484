import ExhaustionGuard.Proofs.Window.History
import ExhaustionGuard.Proofs.Window.Thresholds
import Mathlib.Data.List.DropRight

/-! # The slots of a ring

Every event leaves the ring in order: its slots hold the latest readings and no
others, the cursor stands where the oldest of them will be overwritten, and no
word overflows on the way. This holds along any readings and for the greatest
limit as well, where the ring would need one slot more than a word can count.
-/

namespace ExhaustionGuard.Window

/-- How the readings of a history stand in the slots of a ring. -/
structure Arranges (window : Window) (history : List Nat) : Prop where
  /-- The slots hold the latest readings, as many as there is room for, and no others. -/
  latest : window.readings.toList.Perm (history.rtake window.capacity)
  /-- While there is room, the readings stand as they came and the cursor behind them. -/
  room : history.length < window.capacity →
    window.readings.toList = history ∧ window.cursor = history.length
  /-- A full ring is read from the cursor to its end, and from its start up to the cursor. -/
  around : window.capacity ≤ history.length →
    window.readings.toList.drop window.cursor ++ window.readings.toList.take window.cursor =
      history.rtake window.capacity
  /-- The next reading takes the slot of the oldest one. -/
  oldest : window.capacity ≤ history.length → ∀ now,
    (history.rtake window.capacity).head? = window.readings[window.cursor]? ∧
      (window.record now).readings.toList = window.readings.toList.set window.cursor now
  cursor_lt : window.cursor < window.capacity
  /-- A slot that is overwritten is there. -/
  inBounds : window.capacity ≤ history.length → window.cursor < window.readings.size
  /-- The cursor is moved on without overflow. -/
  next_le : window.cursor + 1 ≤ wordMax

namespace Remembers

variable {window : Window} {history : List Nat}

theorem size_of_full (holds : window.Remembers history)
    (hfull : window.capacity ≤ history.length) : window.readings.size = window.capacity := by
  rw [holds.size]
  omega

theorem around (holds : window.Remembers history) (hfull : window.capacity ≤ history.length) :
    window.readings.toList.drop window.cursor ++ window.readings.toList.take window.cursor =
      history.rtake window.capacity := by
  have hcursor : window.cursor ≤ window.readings.toList.length := by
    rw [Array.length_toList, holds.size_of_full hfull]
    exact holds.cursor_lt.le
  rw [← List.rotate_eq_drop_append_take hcursor]
  exact holds.inOrder

theorem arranges (holds : window.Remembers history) : window.Arranges history where
  latest := by
    have horder : window.inOrder = history.rtake window.capacity := holds.inOrder
    rw [← horder]
    exact (List.rotate_perm _ _).symm
  room := holds.of_room
  around := holds.around
  oldest := by
    intro hfull now
    have hsize := holds.size_of_full hfull
    have hcursor : window.cursor < window.readings.toList.length := by
      rw [Array.length_toList, hsize]
      exact holds.cursor_lt
    refine ⟨?_, ?_⟩
    · rw [← holds.around hfull, List.drop_eq_getElem_cons hcursor, ← Array.getElem?_toList,
        List.getElem?_eq_getElem hcursor]
      rfl
    · rw [Window.record, if_neg (by omega), Array.toList_setIfInBounds]
  cursor_lt := holds.cursor_lt
  inBounds := by
    intro hfull
    rw [holds.size_of_full hfull]
    exact holds.cursor_lt
  next_le := by
    have hlt := holds.cursor_lt
    rw [capacity] at hlt
    omega

end Remembers

/-- After any events, the ring of a window that began empty is arranged as above, and whether the
next event fires can be told from the latest readings, in exact integers. -/
theorem arranges_after (seconds limit : Nat) (readings : List Nat) :
    (((empty seconds limit).after readings).capacity = min (limit + 1) wordMax ∧
      0 < min (limit + 1) wordMax) ∧
      ((empty seconds limit).after readings).Arranges readings ∧
      ∀ now ≤ wordMax, ((((empty seconds limit).after readings).onEvent now).1.fires = true ↔
        limit < wordMax ∧ limit + 1 ≤ (readings ++ [now]).length ∧
          ∀ reading ∈ (readings ++ [now]).rtake (limit + 1), now - 1000 * seconds ≤ reading) := by
  have holds : ((empty seconds limit).after readings).Remembers readings :=
    after_remembers seconds limit readings
  have hlimit : ((empty seconds limit).after readings).limit = limit := limit_after _ readings
  have hspan : ((empty seconds limit).after readings).span = min (1000 * seconds) wordMax :=
    span_after _ readings
  have hcapacity : ((empty seconds limit).after readings).capacity = min (limit + 1) wordMax := by
    rw [capacity, hlimit]
  refine ⟨⟨hcapacity, hcapacity ▸ capacity_pos _⟩, holds.arranges, fun now hword => ?_⟩
  have hcutoff : now - ((empty seconds limit).after readings).span = now - 1000 * seconds := by
    omega
  have hlatest : (readings ++ [now]).rtake (limit + 1) =
      (readings ++ [now]).drop (readings.length - limit) := by
    rw [List.rtake, List.length_append, List.length_singleton, Nat.add_sub_add_right]
  rw [holds.fires_iff now, hlimit, hcutoff, hlatest, List.length_append, List.length_singleton,
    Nat.add_le_add_iff_right]

/-- Three readings in a ring of two slots, the last of them earlier than the one before. -/
theorem arranges_after_overwriting :
    let window := (empty 1 1).after [5, 3000, 900]
    (window.readings = #[900, 3000] ∧ window.cursor = 1) ∧ window.Arranges [5, 3000, 900] ∧
      1800 ≤ wordMax ∧ (window.onEvent 1800).1.fires = true := by
  intro window
  obtain ⟨-, harranges, hfires⟩ := arranges_after 1 1 [5, 3000, 900]
  exact ⟨⟨rfl, rfl⟩, harranges, by decide, (hfires 1800 (by decide)).mpr (by decide)⟩

end ExhaustionGuard.Window
