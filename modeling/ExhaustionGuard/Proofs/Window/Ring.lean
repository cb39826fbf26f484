import ExhaustionGuard.Window
import Mathlib.Data.List.Rotate

/-! # The ring of a window

A ring that has room grows at its end; a full one overwrites the slot at the
cursor. In both phases the slots read from the cursor around hold the latest
readings in their order of arrival, as many as the ring can hold.
-/

namespace ExhaustionGuard.Window

theorem capacity_pos (window : Window) : 0 < window.capacity := by
  have hword : 0 < wordMax := by decide
  unfold capacity
  omega

@[simp]
theorem capacity_record (window : Window) (now : Nat) :
    (window.record now).capacity = window.capacity := rfl

/-- The remembered readings from the oldest to the latest. -/
def inOrder (window : Window) : List Nat :=
  window.readings.toList.rotate window.cursor

/-- The ring holds the end of a history, as much of it as there is room for. -/
structure Remembers (window : Window) (history : List Nat) : Prop where
  size : window.readings.size = min history.length window.capacity
  cursor : window.cursor = history.length % window.capacity
  inOrder : window.inOrder = history.drop (history.length - window.capacity)

theorem remembers_empty (seconds limit : Nat) : (empty seconds limit).Remembers [] :=
  ⟨by simp [empty], by simp [empty], by simp [empty, Window.inOrder]⟩

/-- Read from the slot that was overwritten last, the new reading comes first. -/
theorem rotate_set {slots : List Nat} {cursor : Nat} (hcursor : cursor < slots.length)
    (now : Nat) : (slots.set cursor now).rotate cursor = now :: (slots.rotate cursor).tail := by
  rw [List.rotate_eq_drop_append_take (by simpa using hcursor.le),
    List.rotate_eq_drop_append_take hcursor.le, List.take_set_of_le (le_refl cursor),
    List.drop_eq_getElem_cons (by simpa using hcursor), List.drop_eq_getElem_cons hcursor,
    List.getElem_set_self, List.drop_set_of_lt (Nat.lt_succ_self cursor)]
  rfl

/-- Overwriting drops the oldest reading and puts the new one behind the others. -/
theorem inOrder_record_of_full {window : Window}
    (hfull : window.readings.size = window.capacity)
    (hcursor : window.cursor < window.capacity) (now : Nat) :
    (window.record now).inOrder = window.inOrder.tail ++ [now] := by
  have hslots : (window.record now).readings.toList =
      window.readings.toList.set window.cursor now := by
    rw [record, if_neg (by omega), Array.toList_setIfInBounds]
  have hlength : (window.readings.toList.set window.cursor now).length = window.capacity := by
    simpa using hfull
  have hnext : (window.record now).cursor = (window.cursor + 1) % window.capacity := rfl
  rw [inOrder, hslots, hnext, ← hlength, List.rotate_mod, ← List.rotate_rotate,
    rotate_set (by simpa [hfull] using hcursor), List.rotate_cons_succ, List.rotate_zero]
  rfl

namespace Remembers

variable {window : Window} {history : List Nat}

theorem cursor_lt (holds : window.Remembers history) : window.cursor < window.capacity := by
  rw [holds.cursor]
  exact Nat.mod_lt _ window.capacity_pos

/-- While there is room the slots stand in order of arrival and the cursor is at their end. -/
theorem of_room (holds : window.Remembers history) (hroom : history.length < window.capacity) :
    window.readings.toList = history ∧ window.cursor = history.length := by
  have hcursor : window.cursor = history.length := by
    rw [holds.cursor, Nat.mod_eq_of_lt hroom]
  have hlength : window.readings.toList.length = history.length := by
    rw [Array.length_toList, holds.size]
    omega
  refine ⟨?_, hcursor⟩
  have horder := holds.inOrder
  rwa [Window.inOrder, hcursor, ← hlength, List.rotate_length, hlength,
    Nat.sub_eq_zero_of_le hroom.le, List.drop_zero] at horder

theorem record_of_room (holds : window.Remembers history)
    (hroom : history.length < window.capacity) (now : Nat) :
    (window.record now).Remembers (history ++ [now]) := by
  obtain ⟨hlist, hcursor⟩ := holds.of_room hroom
  have hsize : window.readings.size = history.length := by
    rw [← hlist, Array.length_toList]
  have hslots : (window.record now).readings.toList = history ++ [now] := by
    rw [Window.record, if_pos (by omega), Array.toList_push, hlist]
  have hnext : (window.record now).cursor = (history.length + 1) % window.capacity := by
    rw [Window.record, hcursor]
  refine ⟨?_, by simpa using hnext, ?_⟩
  · rw [← Array.length_toList, hslots, capacity_record, List.length_append, List.length_singleton]
    omega
  · rw [Window.inOrder, hslots, hnext, capacity_record, List.length_append, List.length_singleton,
      Nat.sub_eq_zero_of_le hroom, List.drop_zero]
    -- the reading that fills the ring brings the cursor back to its start
    rcases Nat.lt_or_ge (history.length + 1) window.capacity with hlt | hge
    · rw [Nat.mod_eq_of_lt hlt]
      simpa using List.rotate_length (history ++ [now])
    · have hfull : window.capacity = history.length + 1 := by omega
      rw [hfull, Nat.mod_self, List.rotate_zero]

theorem record_of_full (holds : window.Remembers history)
    (hfull : window.capacity ≤ history.length) (now : Nat) :
    (window.record now).Remembers (history ++ [now]) := by
  have hsize : window.readings.size = window.capacity := by
    rw [holds.size]
    omega
  refine ⟨?_, ?_, ?_⟩
  · rw [Window.record, if_neg (by omega), Array.size_setIfInBounds]
    simp only [capacity, List.length_append, List.length_singleton] at hsize hfull ⊢
    omega
  · rw [Window.record, holds.cursor, List.length_append, List.length_singleton]
    exact Nat.mod_add_mod _ _ _
  · rw [inOrder_record_of_full hsize holds.cursor_lt, holds.inOrder, List.tail_drop,
      capacity_record, List.length_append, List.length_singleton,
      List.drop_append_of_le_length (by have := window.capacity_pos; omega),
      Nat.sub_add_comm hfull]

protected theorem record (holds : window.Remembers history) (now : Nat) :
    (window.record now).Remembers (history ++ [now]) := by
  rcases Nat.lt_or_ge history.length window.capacity with hroom | hfull
  · exact holds.record_of_room hroom now
  · exact holds.record_of_full hfull now

/-- Every event is remembered, whatever the window says about it. -/
protected theorem after (holds : window.Remembers history) (readings : List Nat) :
    (window.after readings).Remembers (history ++ readings) := by
  induction readings generalizing window history with
  | nil => simpa [Window.after] using holds
  | cons now rest ih =>
      have hrest := ih (holds.record now)
      rwa [List.append_assoc, List.singleton_append] at hrest

theorem countInside_eq (holds : window.Remembers history) (now : Nat) :
    window.countInside now = (history.drop (history.length - window.capacity)).countP
      fun reading => now - window.span ≤ reading := by
  rw [← holds.inOrder, countInside, ← Array.countP_toList]
  exact (List.rotate_perm _ _).countP_eq _ |>.symm

end Remembers

theorem after_remembers (seconds limit : Nat) (readings : List Nat) :
    ((empty seconds limit).after readings).Remembers readings :=
  (remembers_empty seconds limit).after readings

end ExhaustionGuard.Window
