import ExhaustionGuard.Text.Regex
import Mathlib.Data.List.Basic

/-! # Matches of patterns

What it takes for a part of a text to match a pattern, for each form of a
pattern. A pattern that matches single characters and catches nothing, repeated,
matches the texts of such characters and catches nothing either.
-/

namespace ExhaustionGuard.Text.Regex

variable {before part behind : List Char} {caught : List (Nat × List Char)}
  {first second body : Regex}

theorem matches_start_iff :
    Matches start before part behind caught ↔ before = [] ∧ part = [] ∧ caught = [] := by
  constructor
  · rintro ⟨⟩
    exact ⟨rfl, rfl, rfl⟩
  · rintro ⟨rfl, rfl, rfl⟩
    exact .start

theorem matches_stop_iff :
    Matches stop before part behind caught ↔ part = [] ∧ behind = [] ∧ caught = [] := by
  constructor
  · rintro ⟨⟩
    exact ⟨rfl, rfl, rfl⟩
  · rintro ⟨rfl, rfl, rfl⟩
    exact .stop

theorem matches_char_iff {c : Char} :
    Matches (char c) before part behind caught ↔ part = [c] ∧ caught = [] := by
  constructor
  · rintro ⟨⟩
    exact ⟨rfl, rfl⟩
  · rintro ⟨rfl, rfl⟩
    exact .char

theorem matches_oneOf_iff {chars : List Char} :
    Matches (oneOf chars) before part behind caught ↔
      ∃ c ∈ chars, part = [c] ∧ caught = [] := by
  constructor
  · rintro ⟨⟩
    exact ⟨_, ‹_›, rfl, rfl⟩
  · rintro ⟨c, hc, rfl, rfl⟩
    exact .oneOf hc

theorem matches_noneOf_iff {chars : List Char} :
    Matches (noneOf chars) before part behind caught ↔
      ∃ c, c ∉ chars ∧ part = [c] ∧ caught = [] := by
  constructor
  · rintro ⟨⟩
    exact ⟨_, ‹_›, rfl, rfl⟩
  · rintro ⟨c, hc, rfl, rfl⟩
    exact .noneOf hc

theorem matches_seq_iff :
    Matches (seq first second) before part behind caught ↔
      ∃ left right early late, part = left ++ right ∧ caught = late ++ early ∧
        Matches first before left (right ++ behind) early ∧
        Matches second (before ++ left) right behind late := by
  constructor
  · rintro ⟨⟩
    exact ⟨_, _, _, _, rfl, rfl, ‹_›, ‹_›⟩
  · rintro ⟨left, right, early, late, rfl, rfl, hfirst, hsecond⟩
    exact .seq hfirst hsecond

theorem matches_alt_iff :
    Matches (alt first second) before part behind caught ↔
      Matches first before part behind caught ∨ Matches second before part behind caught := by
  constructor
  · intro hmatches
    cases hmatches with
    | left hfirst => exact .inl hfirst
    | right hsecond => exact .inr hsecond
  · rintro (hfirst | hsecond)
    · exact .left hfirst
    · exact .right hsecond

theorem matches_group_iff :
    Matches (group body) before part behind caught ↔ Matches body before part behind caught :=
  ⟨fun | .group hbody => hbody, .group⟩

theorem matches_capture_iff {number : Nat} :
    Matches (capture number body) before part behind caught ↔
      ∃ inner, caught = (number, part) :: inner ∧ Matches body before part behind inner := by
  constructor
  · rintro ⟨⟩
    exact ⟨_, rfl, ‹_›⟩
  · rintro ⟨inner, rfl, hbody⟩
    exact .capture hbody

/-! ## Repetitions of single characters -/

/-- A pattern matches the single characters with a property wherever they stand, nothing else, and
catches nothing. -/
def MatchesEach (body : Regex) (good : Char → Prop) : Prop :=
  ∀ {before part behind caught}, Matches body before part behind caught ↔
    ∃ c, good c ∧ part = [c] ∧ caught = []

variable {good : Char → Prop}

theorem matches_star_iff (each : MatchesEach body good) :
    Matches (star body) before part behind caught ↔ (∀ c ∈ part, good c) ∧ caught = [] := by
  constructor
  · intro hmatches
    generalize hpattern : star body = pattern at hmatches
    induction hmatches with
    | none => exact ⟨by simp, rfl⟩
    | more hfirst _ _ ih =>
        obtain rfl := Regex.star.inj hpattern
        obtain ⟨c, hc, rfl, rfl⟩ := each.mp hfirst
        obtain ⟨hrest, rfl⟩ := ih rfl
        exact ⟨List.forall_mem_cons.mpr ⟨hc, hrest⟩, rfl⟩
    | _ => cases hpattern
  · rintro ⟨hall, rfl⟩
    induction part generalizing before with
    | nil => exact .none
    | cons c rest ih =>
        obtain ⟨hc, hrest⟩ := List.forall_mem_cons.mp hall
        have hfirst : Matches body before [c] (rest ++ behind) [] := each.mpr ⟨c, hc, rfl, rfl⟩
        exact .more hfirst (ih hrest)

theorem matches_plus_iff (each : MatchesEach body good) :
    Matches (plus body) before part behind caught ↔
      part ≠ [] ∧ (∀ c ∈ part, good c) ∧ caught = [] := by
  constructor
  · rintro ⟨⟩
    rename_i first rest early late hfirst hrest
    obtain ⟨c, hc, rfl, rfl⟩ := each.mp hfirst
    obtain ⟨hall, rfl⟩ := (matches_star_iff each).mp hrest
    exact ⟨List.cons_ne_nil _ _, List.forall_mem_cons.mpr ⟨hc, hall⟩, rfl⟩
  · rintro ⟨hsome, hall, rfl⟩
    obtain ⟨c, rest, rfl⟩ := List.exists_cons_of_ne_nil hsome
    obtain ⟨hc, hrest⟩ := List.forall_mem_cons.mp hall
    have hfirst : Matches body before [c] (rest ++ behind) [] := each.mpr ⟨c, hc, rfl, rfl⟩
    exact .plus hfirst ((matches_star_iff each).mpr ⟨hrest, rfl⟩)

theorem matchesEach_char (c : Char) : MatchesEach (char c) (· = c) := by
  intro before part behind caught
  rw [matches_char_iff]
  simp

theorem matchesEach_noneOf (chars : List Char) : MatchesEach (noneOf chars) (· ∉ chars) :=
  matches_noneOf_iff

end ExhaustionGuard.Text.Regex
