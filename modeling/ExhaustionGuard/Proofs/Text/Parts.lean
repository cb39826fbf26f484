import ExhaustionGuard.Text.Blank
import Mathlib.Data.List.DropRight

/-! # Parts of a text

Cutting a text at a separator undoes joining parts that do not contain it, and
trimming finds the one text that is bare at both ends and lies in blanks.
-/

namespace ExhaustionGuard.Text

/-! ## Cutting -/

theorem cut_eq_splitOn (separator : Char) (text : List Char) :
    cut separator text = text.splitOn separator := by
  induction text with
  | nil => simp [cut]
  | cons c rest ih =>
      rw [cut, List.splitOn_cons_eq_if_modifyHead, ih]
      by_cases hc : c = separator
      · simp [hc]
      · simp only [hc, if_false, beq_iff_eq]
        cases hparts : rest.splitOn separator with
        | nil => exact absurd hparts (List.splitOn_ne_nil separator rest)
        | cons part parts => rfl

theorem notMem_of_mem_cut {separator : Char} {text part : List Char}
    (hpart : part ∈ cut separator text) : separator ∉ part := by
  induction text generalizing part with
  | nil => simp_all [cut]
  | cons c rest ih =>
      rw [cut] at hpart
      split at hpart
      next =>
        rcases List.mem_cons.mp hpart with rfl | hrest
        · exact List.not_mem_nil
        · exact ih hrest
      next hc =>
        split at hpart
        next =>
          rw [List.mem_singleton.mp hpart, List.mem_singleton]
          exact Ne.symm hc
        next first parts hcut =>
          rw [hcut] at ih
          rcases List.mem_cons.mp hpart with rfl | hrest
          · exact List.not_mem_cons_of_ne_of_not_mem (Ne.symm hc) (ih List.mem_cons_self)
          · exact ih (List.mem_cons_of_mem _ hrest)

/-- The parts of a text are those without the separator that the text is joined from. -/
theorem cut_eq_iff {separator : Char} {text : List Char} {parts : List (List Char)} :
    cut separator text = parts ↔
      parts ≠ [] ∧ (∀ part ∈ parts, separator ∉ part) ∧ [separator].intercalate parts = text := by
  constructor
  · rintro rfl
    refine ⟨?_, fun part hpart => notMem_of_mem_cut hpart, ?_⟩
    · rw [cut_eq_splitOn]
      exact List.splitOn_ne_nil separator text
    · rw [cut_eq_splitOn, List.intercalate_splitOn]
  · rintro ⟨hparts, hclean, rfl⟩
    rw [cut_eq_splitOn, List.splitOn_intercalate separator hclean hparts]

/-- Where each part is followed by the separator, nothing is left after the last. -/
theorem cut_flatMap {separator : Char} {parts : List (List Char)}
    (hparts : ∀ part ∈ parts, separator ∉ part) :
    cut separator (parts.flatMap (· ++ [separator])) = parts ++ [[]] := by
  refine cut_eq_iff.mpr ⟨by simp, ?_, ?_⟩
  · exact List.forall_mem_append.mpr ⟨hparts, by simp⟩
  · clear hparts
    induction parts with
    | nil => rfl
    | cons part rest ih =>
        rw [List.cons_append, List.intercalate_cons_of_ne_nil (by simp), ih, List.flatMap_cons]

theorem cutOnce_append {separator : Char} {left : List Char} (hleft : separator ∉ left)
    (right : List Char) : cutOnce separator (left ++ separator :: right) = some (left, right) := by
  induction left with
  | nil => simp [cutOnce]
  | cons c left ih =>
      obtain ⟨hc, hleft⟩ := not_or.mp (List.mem_cons.not.mp hleft)
      rw [List.cons_append, cutOnce, if_neg (Ne.symm hc), ih hleft, Option.map_some]

theorem of_cutOnce_eq_some {separator : Char} {text left right : List Char}
    (hcut : cutOnce separator text = some (left, right)) :
    text = left ++ separator :: right ∧ separator ∉ left := by
  induction text generalizing left with
  | nil => simp [cutOnce] at hcut
  | cons c rest ih =>
      rw [cutOnce] at hcut
      split at hcut
      next hc =>
        obtain ⟨rfl, rfl⟩ := Prod.mk.inj (Option.some.inj hcut)
        exact ⟨congrArg (· :: rest) hc, List.not_mem_nil⟩
      next hc =>
        obtain ⟨⟨first, second⟩, hrest, hsides⟩ := Option.map_eq_some_iff.mp hcut
        obtain ⟨rfl, rfl⟩ := Prod.mk.inj hsides
        obtain ⟨rfl, hnot⟩ := ih hrest
        exact ⟨rfl, List.not_mem_cons_of_ne_of_not_mem (Ne.symm hc) hnot⟩

/-- The sides of the first separator are those of which the left one does not contain it. -/
theorem cutOnce_eq_some_iff {separator : Char} {text left right : List Char} :
    cutOnce separator text = some (left, right) ↔
      text = left ++ separator :: right ∧ separator ∉ left :=
  ⟨of_cutOnce_eq_some, fun hsides => hsides.1 ▸ cutOnce_append hsides.2 right⟩

theorem cutOnce_eq_none_iff {separator : Char} {text : List Char} :
    cutOnce separator text = none ↔ separator ∉ text := by
  induction text with
  | nil => simp [cutOnce]
  | cons c rest ih =>
      rw [cutOnce, List.mem_cons, not_or]
      split
      next hc => simp [hc]
      next hc => rw [Option.map_eq_none_iff, ih, and_iff_right (Ne.symm hc)]

/-! ## Trimming -/

/-- Nothing but blank characters. -/
def IsBlank (text : List Char) : Prop := ∀ c ∈ text, isBlank c = true

instance (text : List Char) : Decidable (IsBlank text) :=
  List.decidableBAll (fun c => isBlank c = true) text

/-- A text that neither begins nor ends with a blank character. -/
structure IsBare (text : List Char) : Prop where
  first : ∀ c ∈ text.head?, isBlank c = false
  last : ∀ c ∈ text.getLast?, isBlank c = false

/-- A text with blank characters, or none, on either side of another. -/
def IsPadded (inner outer : List Char) : Prop :=
  ∃ left right, IsBlank left ∧ IsBlank right ∧ outer = left ++ inner ++ right

/-- The bare text that another one has between its blanks. -/
def IsCore (core text : List Char) : Prop := IsBare core ∧ IsPadded core text

theorem trimEnd_eq_rdropWhile (text : List Char) : trimEnd text = text.rdropWhile isBlank := rfl

theorem IsBlank.append {left right : List Char} (hleft : IsBlank left) (hright : IsBlank right) :
    IsBlank (left ++ right) := by
  intro c hc
  rcases List.mem_append.mp hc with hc | hc
  · exact hleft c hc
  · exact hright c hc

theorem IsBlank.reverse {text : List Char} (hblank : IsBlank text) : IsBlank text.reverse :=
  fun c hc => hblank c (List.mem_reverse.mp hc)

theorem dropWhile_isBlank_append {blank text : List Char} (hblank : IsBlank blank)
    (hfirst : ∀ c ∈ text.head?, isBlank c = false) :
    (blank ++ text).dropWhile isBlank = text := by
  rw [List.dropWhile_append_of_pos hblank]
  cases text with
  | nil => rfl
  | cons c rest => rw [List.dropWhile_cons_of_neg (by simp [hfirst c rfl])]

theorem trimEnd_append {text blank : List Char} (hblank : IsBlank blank)
    (hlast : ∀ c ∈ text.getLast?, isBlank c = false) : trimEnd (text ++ blank) = text := by
  rw [trimEnd, List.reverse_append, dropWhile_isBlank_append hblank.reverse, List.reverse_reverse]
  rwa [List.head?_reverse]

theorem isBlank_head?_dropWhile {text : List Char} {c : Char}
    (hc : c ∈ (text.dropWhile isBlank).head?) : isBlank c = false := by
  have hnot := List.head?_dropWhile_not isBlank text
  rwa [Option.mem_def.mp hc] at hnot

theorem IsCore.trim_eq {core text : List Char} (hcore : IsCore core text) : trim text = core := by
  obtain ⟨hbare, left, right, hleft, hright, rfl⟩ := hcore
  cases core with
  | nil =>
      have hstart : (left ++ right).dropWhile isBlank = [] :=
        List.dropWhile_eq_nil_iff.mpr (hleft.append hright)
      rw [trim, List.append_nil, hstart]
      rfl
  | cons c rest =>
      have hstart : (left ++ (c :: rest ++ right)).dropWhile isBlank = c :: rest ++ right :=
        dropWhile_isBlank_append hleft hbare.first
      rw [trim, List.append_assoc, hstart, trimEnd_append hright hbare.last]

theorem isPadded_trim (text : List Char) : IsPadded (trim text) text := by
  have hstart : text = text.takeWhile isBlank ++ text.dropWhile isBlank :=
    List.takeWhile_append_dropWhile.symm
  refine ⟨text.takeWhile isBlank, (text.dropWhile isBlank).rtakeWhile isBlank,
    fun _ hc => List.mem_takeWhile_imp hc, fun _ hc => List.mem_rtakeWhile_imp hc, ?_⟩
  rw [List.append_assoc]
  exact hstart.trans (congrArg _ List.rdropWhile_append_rtakeWhile.symm)

theorem isBare_trim (text : List Char) : IsBare (trim text) where
  first c hc := by
    obtain ⟨rest, hrest⟩ := List.rdropWhile_prefix isBlank (text.dropWhile isBlank)
    have hhead : c ∈ (text.dropWhile isBlank).head? := by
      rw [← hrest, List.head?_append, ← trimEnd_eq_rdropWhile, ← trim, Option.mem_def.mp hc]
      rfl
    exact isBlank_head?_dropWhile hhead
  last c hc := by
    rw [trim, trimEnd, List.getLast?_reverse] at hc
    exact isBlank_head?_dropWhile hc

/-- Trimming finds the core of a text. -/
theorem trim_eq_iff {text core : List Char} : trim text = core ↔ IsCore core text :=
  ⟨fun htrim => htrim ▸ ⟨isBare_trim text, isPadded_trim text⟩, IsCore.trim_eq⟩

theorem IsBlank.trim_eq {text : List Char} (hblank : IsBlank text) : trim text = [] :=
  IsCore.trim_eq ⟨⟨nofun, nofun⟩, text, [], hblank, nofun, by simp⟩

theorem isBare_of_not_isBlank {text : List Char} (htext : ∀ c ∈ text, isBlank c = false) :
    IsBare text where
  first c hc := htext c (List.mem_of_mem_head? hc)
  last c hc := htext c (List.mem_of_mem_getLast? hc)

theorem IsCore.dropWhile {core text : List Char} (hcore : IsCore core text) :
    IsCore core (text.dropWhile isBlank) := by
  rw [← trim_eq_iff] at hcore ⊢
  rw [← hcore, trim, trim, List.dropWhile_idempotent]

theorem IsCore.trimEnd {core text : List Char} (hcore : IsCore core text) :
    IsCore core (trimEnd text) := by
  obtain ⟨hbare, left, right, hleft, hright, rfl⟩ := hcore
  cases core with
  | nil =>
      have hblank : IsBlank (left ++ [] ++ right) := by
        rw [List.append_nil]
        exact hleft.append hright
      have hempty : Text.trimEnd (left ++ [] ++ right) = [] := by
        rw [Text.trimEnd, List.dropWhile_eq_nil_iff.mpr hblank.reverse, List.reverse_nil]
      exact ⟨hbare, [], [], nofun, nofun, hempty⟩
  | cons c rest =>
      have hlast : ∀ d ∈ (left ++ c :: rest).getLast?, isBlank d = false := by
        rw [List.getLast?_append_of_ne_nil left (List.cons_ne_nil c rest)]
        exact hbare.last
      exact ⟨hbare, left, [], hleft, nofun,
        by rw [trimEnd_append hright hlast, List.append_nil]⟩

theorem dropWhile_append_cons {c : Char} (hc : isBlank c = false) (before after : List Char) :
    (before ++ c :: after).dropWhile isBlank = before.dropWhile isBlank ++ c :: after := by
  rw [List.dropWhile_append]
  split
  next hempty =>
    rw [List.isEmpty_iff.mp hempty, List.dropWhile_cons_of_neg (by simp [hc]), List.nil_append]
  next => rfl

/-- Trimming does not reach beyond a character that is not blank. -/
theorem trim_append_cons {c : Char} (hc : isBlank c = false) (before after : List Char) :
    trim (before ++ c :: after) = before.dropWhile isBlank ++ c :: trimEnd after := by
  rw [trim, dropWhile_append_cons hc, trimEnd, List.reverse_append, List.reverse_cons,
    List.append_assoc, List.singleton_append, dropWhile_append_cons hc, trimEnd]
  simp

end ExhaustionGuard.Text
