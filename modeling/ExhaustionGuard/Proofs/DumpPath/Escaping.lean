import ExhaustionGuard.DumpPath

/-! # Escaped dump paths

A template in which every percent sign is doubled has nothing in it that depends
on the time, whatever stands behind the signs. So it stands for the text that it
was made of, which is then seen from the working directory. All that this takes
from the formatter is that it copies what opens no escape and writes one sign for
two.
-/

namespace ExhaustionGuard

namespace Calendar

/-- All that is relied on when a template is written: a character that opens no escape is copied,
white space like any other, and two percent signs stand for one. What other escapes come to is left
open. -/
structure Formatter.CopiesText (format : Formatter) : Prop where
  nothing : ∀ time, format "" time = some ""
  plain : ∀ {c : Char}, c ≠ '%' → ∀ rest time,
    format (String.singleton c ++ rest) time =
      (format rest time).map fun later => String.singleton c ++ later
  percent : ∀ rest time,
    format ("%%" ++ rest) time = (format rest time).map fun later => "%" ++ later

/-- A character of a template that is to stand for itself. -/
def escapeChar (c : Char) : List Char :=
  if c = '%' then ['%', '%'] else [c]

namespace Formatter.CopiesText

variable {format : Formatter}

theorem format_escapeChar_append (hcopies : format.CopiesText) (c : Char) (rest : String)
    (time : LocalTime) : format (String.ofList (escapeChar c) ++ rest) time =
      (format rest time).map fun later => String.singleton c ++ later := by
  by_cases hpercent : c = '%'
  · subst hpercent
    exact hcopies.percent rest time
  · rw [escapeChar, if_neg hpercent, ← String.singleton_eq_ofList]
    exact hcopies.plain hpercent rest time

/-- At any time an escaped text is written as it stood before. -/
theorem format_escape (hcopies : format.CopiesText) (text : String) (time : LocalTime) :
    format (DumpPath.escape text) time = some text := by
  have hchars : ∀ chars : List Char,
      format (String.ofList (chars.flatMap escapeChar)) time = some (String.ofList chars) := by
    intro chars
    induction chars with
    | nil => exact hcopies.nothing time
    | cons c rest ih =>
        rw [List.flatMap_cons, String.ofList_append, hcopies.format_escapeChar_append, ih,
          Option.map_some, String.singleton_eq_ofList, ← String.ofList_append,
          List.singleton_append]
  have htext := hchars text.toList
  rwa [String.ofList_toList] at htext

end Formatter.CopiesText

/-! ## The formatter of this library -/

theorem write?_of_readItemsFrom {template rest : String} {c : Char} (time : LocalTime)
    (hread : readItemsFrom .plain template.toList =
      (readItemsFrom .plain rest.toList).map fun later => .literal c :: later) :
    write? template time = (write? rest time).map fun later => String.singleton c ++ later := by
  rw [write?, write?, readItems?, readItems?, hread, Option.map_map, Option.map_map]
  congr 1
  funext items
  exact String.join_cons

theorem write?_copiesText : Formatter.CopiesText write? where
  nothing _ := rfl
  plain {c} hplain rest time := by
    refine write?_of_readItemsFrom time ?_
    have hstep : EscapeState.step .plain c = some ([.literal c], .plain) := if_neg hplain
    rw [String.toList_append, String.toList_singleton, List.singleton_append, readItemsFrom, hstep]
    rfl
  percent rest time := by
    have hsign : "%" = String.singleton '%' := rfl
    rw [hsign]
    refine write?_of_readItemsFrom time ?_
    rw [String.toList_append]
    -- the second sign is the letter of the escape that the first one opens
    change ((readItemsFrom .plain rest.toList).map fun later => [.literal '%'] ++ later).map
      (fun later => [] ++ later) = _
    rw [Option.map_map]
    rfl

end Calendar

namespace Path

theorem isAbsolute_append {path : String} (habsolute : isAbsolute path = true) (rest : String) :
    isAbsolute (path ++ rest) = true := by
  simp only [isAbsolute, beq_iff_eq, String.toList_append] at habsolute ⊢
  rw [List.head?_append, habsolute, Option.some_or]

/-- A directory is written as a stem that does not end in a slash, with one slash behind it or
none. The stem of the root is empty. -/
structure IsStem (stem directory : String) : Prop where
  getLast?_ne : stem.toList.getLast? ≠ some '/'
  eq_or_eq : directory = stem ∨ directory = stem ++ "/"

/-- A path that does not start at the root is joined to its directory by one slash. -/
theorem IsStem.fromDirectory {stem directory : String} (hstem : IsStem stem directory)
    {path : String} (hrelative : isAbsolute path = false) :
    fromDirectory directory path = stem ++ "/" ++ path := by
  obtain ⟨hlast, rfl | rfl⟩ := hstem
  · simp [Path.fromDirectory, hrelative, hlast]
  · simp [Path.fromDirectory, hrelative]

theorem IsStem.isAbsolute {stem directory : String} (hstem : IsStem stem directory)
    (habsolute : isAbsolute directory = true) : Path.isAbsolute (stem ++ "/") = true := by
  obtain ⟨-, rfl | rfl⟩ := hstem
  · exact isAbsolute_append habsolute "/"
  · exact habsolute

end Path

namespace DumpPath

theorem escape_of_notMem {text : String} (hpercent : '%' ∉ text.toList) : escape text = text := by
  have hplain : ∀ c ∈ text.toList, (if c = '%' then ['%', '%'] else [c]) = [c] := by
    intro c hc
    rw [if_neg]
    rintro rfl
    exact hpercent hc
  rw [escape, List.flatMap_def, List.map_congr_left hplain, ← List.flatMap_def,
    List.flatMap_singleton', String.ofList_toList]

/-- At any time this is what a text stands for when it is escaped, or as it is if it has no percent
signs. -/
def StandsFor (system : System) (text : String) (result : Except OutputError String) : Prop :=
  ∀ time, resolve system (escape text) time = result ∧
    ('%' ∉ text.toList → resolve system text time = result)

theorem standsFor_of_copiesText {system : System}
    (hcopies : system.libraries.formatTime.CopiesText) (text : String) :
    StandsFor system text (if Path.isAbsolute text then .ok text
      else system.workingDirectory.map fun directory => Path.fromDirectory directory text) := by
  intro time
  have hescape := hcopies.format_escape text time
  refine ⟨by rw [resolve, hescape], fun hpercent => ?_⟩
  rw [escape_of_notMem hpercent] at hescape
  rw [resolve, hescape]

/-- A text that starts at the root stands for itself. Any other one stands for the path with the
working directory before it and one slash in between, which is absolute; and if the working
directory is gone, for nothing. -/
theorem resolve_escape {system : System} (hcopies : system.libraries.formatTime.CopiesText)
    (text : String) :
    (Path.isAbsolute text = true → StandsFor system text (.ok text)) ∧
    (Path.isAbsolute text = false →
      (∀ stem directory, system.workingDirectory = .ok directory → Path.IsStem stem directory →
        Path.isAbsolute directory = true →
        StandsFor system text (.ok (stem ++ "/" ++ text)) ∧
          Path.isAbsolute (stem ++ "/" ++ text) = true) ∧
      ∀ error, system.workingDirectory = .error error → StandsFor system text (.error error)) := by
  have hstands := standsFor_of_copiesText hcopies text
  refine ⟨fun hroot => ?_, fun hrelative => ⟨fun stem directory hworking hstem habsolute => ?_,
    fun error hworking => ?_⟩⟩
  · rwa [if_pos hroot] at hstands
  · rw [hrelative, hworking, if_neg Bool.false_ne_true, Except.map,
      hstem.fromDirectory hrelative] at hstands
    exact ⟨hstands, Path.isAbsolute_append (hstem.isAbsolute habsolute) text⟩
  · rwa [hrelative, hworking, if_neg Bool.false_ne_true, Except.map] at hstands

/-- A system whose working directory is the root. -/
def rooted : System :=
  .inMemory ⟨[]⟩ "/" (fun _ => none) ⟨⟨1970, 1, 1⟩, 0, 0, 0, 0, .utc⟩

/-- What looks like an escape behind two percent signs stays as it is, also at the root. -/
theorem resolve_escape_at_root :
    rooted.libraries.formatTime.CopiesText ∧ rooted.workingDirectory = .ok "/" ∧
      (Path.IsStem "" "/" ∧ Path.isAbsolute "/" = true) ∧
      escape "100%%Y %\t☃%" = "100%%%%Y %%\t☃%%" ∧
      StandsFor rooted "100%%Y %\t☃%" (.ok "/100%%Y %\t☃%") ∧
      StandsFor rooted "/%Y" (.ok "/%Y") := by
  have hcopies : rooted.libraries.formatTime.CopiesText := Calendar.write?_copiesText
  have hstem : Path.IsStem "" "/" := ⟨by decide, .inr rfl⟩
  have habsolute : Path.isAbsolute "/" = true := by decide
  have hbelow := (resolve_escape hcopies "100%%Y %\t☃%").2 (by decide)
  have hatRoot := (resolve_escape hcopies "/%Y").1 (by decide)
  exact ⟨hcopies, rfl, ⟨hstem, habsolute⟩, by decide, (hbelow.1 "" "/" rfl hstem habsolute).1,
    hatRoot⟩

end DumpPath

end ExhaustionGuard
