import ExhaustionGuard.Proofs.Heap.Ranking
import ExhaustionGuard.Proofs.Text.Numerals
import ExhaustionGuard.Proofs.Text.Parts
import Std.Data.String.ToInt

/-! # Reading tables back

The table of a report says all that the report does. Its lines are told apart by
their ends; in a line the two numbers end with their first blanks, and the name
is what is left before the closing bar. As long as the numbers fit their columns
the bars of all lines stand below each other.
-/

namespace ExhaustionGuard.Heap

namespace Report

/-! ## Lines and cells -/

/-- A cell with its padding and a blank on either side. -/
def cell (width : Nat) (text : List Char) : List Char :=
  ' ' :: (text ++ List.replicate (width - text.length) ' ') ++ [' ']

/-- A line without its end. -/
def line (width : Nat) (count total name : List Char) : List Char :=
  '|' :: cell 14 count ++ '|' :: cell 11 total ++ '|' :: cell width name ++ ['|']

theorem length_cell {width : Nat} {text : List Char} (hfits : text.length ≤ width) :
    (cell width text).length = width + 2 := by
  simp only [cell, List.length_append, List.length_cons, List.length_replicate, List.length_nil]
  omega

theorem toList_padRight (width : Nat) (text : String) :
    (Text.padRight width text).toList =
      text.toList ++ List.replicate (width - text.toList.length) ' ' := by
  simp [Text.padRight, String.length_toList]

theorem toList_tableLine (width : Nat) (count total name : String) :
    (tableLine width count total name).toList =
      line width count.toList total.toList name.toList ++ ['\n'] := by
  simp [tableLine, line, cell, toList_padRight]

/-- The line of headings. -/
def heading (width : Nat) : List Char :=
  line width "Instance Count".toList "Total Bytes".toList nameHeading.toList

/-- The line of a row. -/
def lineOf (width : Nat) (row : Row) : List Char :=
  line width (toString row.count).toList (toString row.total).toList row.name.toList

/-- The lines of a table. -/
def lines (report : Report) : List (List Char) :=
  heading report.nameWidth :: report.rows.map (lineOf report.nameWidth)

theorem toList_table (report : Report) :
    report.table.toList = report.lines.flatMap (· ++ ['\n']) := by
  simp [table, lines, heading, lineOf, rowLine, toList_tableLine, String.toList_join,
    List.flatMap_map]

/-! ## Reading -/

/-- Reads a cell that ends with its first blank, and the bar after it. -/
def readCell : List Char → Option (List Char × List Char)
  | ' ' :: text =>
      match (text.dropWhile (· ≠ ' ')).dropWhile (· = ' ') with
      | '|' :: rest => some (text.takeWhile (· ≠ ' '), rest)
      | _ => none
  | _ => none

/-- Reads the last cell, which ends before its padding and the closing bar. -/
def readName : List Char → Option (List Char)
  | ' ' :: text =>
      match text.reverse with
      | '|' :: ' ' :: back => some (back.dropWhile (· = ' ')).reverse
      | _ => none
  | _ => none

/-- Reads the line of a row. -/
def readRow : List Char → Option Row
  | '|' :: text => do
      let (count, text) ← readCell text
      let (total, text) ← readCell text
      let name ← readName text
      let count ← (String.ofList count).toNat?
      let total ← (String.ofList total).toInt?
      pure ⟨count, total, String.ofList name⟩
  | _ => none

/-- Reads a table: the heading tells the width, and each other line is a row. -/
def readTable (text : String) : Option Report :=
  match Text.cut '\n' text.toList with
  | heading :: lines => do
      let rows ← lines.dropLast.mapM readRow
      pure ⟨rows, heading.length - 35⟩
  | [] => none

/-- A blank may as well stand before other blanks as after them. -/
theorem replicate_blank_append (k : Nat) (rest : List Char) :
    List.replicate k ' ' ++ ' ' :: rest = ' ' :: (List.replicate k ' ' ++ rest) := by
  rw [List.append_cons, ← List.replicate_succ', List.replicate_succ, List.cons_append]

theorem dropWhile_blanks (k : Nat) (rest : List Char) :
    (List.replicate k ' ' ++ rest).dropWhile (· = ' ') = rest.dropWhile (· = ' ') :=
  List.dropWhile_append_of_pos fun _ hc => decide_eq_true (List.eq_of_mem_replicate hc)

theorem readCell_cell (width : Nat) {text : List Char} (htext : ' ' ∉ text) (rest : List Char) :
    readCell (cell width text ++ '|' :: rest) = some (text, rest) := by
  have hcell : cell width text ++ '|' :: rest =
      ' ' :: (text ++ ' ' :: (List.replicate (width - text.length) ' ' ++ '|' :: rest)) := by
    simp [cell, replicate_blank_append]
  have hkept : ∀ c ∈ text, decide (c ≠ ' ') = true := by
    intro c hc
    exact decide_eq_true fun heq => htext (heq ▸ hc)
  rw [hcell, readCell, List.dropWhile_append_of_pos hkept, List.takeWhile_append_of_pos hkept]
  simp

theorem readName_cell (width : Nat) {name : List Char} (hname : name.getLast? ≠ some ' ') :
    readName (cell width name ++ ['|']) = some name := by
  -- the padding is taken off from behind, where it ends with the last character of the name
  have hreverse : (name ++ List.replicate (width - name.length) ' ' ++ [' ', '|']).reverse =
      '|' :: ' ' :: (List.replicate (width - name.length) ' ' ++ name.reverse) := by
    simp
  have hback : name.reverse.dropWhile (· = ' ') = name.reverse := by
    rw [← List.head?_reverse] at hname
    cases hreversed : name.reverse with
    | nil => rfl
    | cons c rest => exact List.dropWhile_cons_of_neg (by simpa [hreversed] using hname)
  have hcell : cell width name ++ ['|'] =
      ' ' :: (name ++ List.replicate (width - name.length) ' ' ++ [' ', '|']) := by
    simp [cell]
  rw [hcell, readName, hreverse]
  simp only [dropWhile_blanks, hback, List.reverse_reverse]

/-! ## Alignment -/

/-- The bars of a line stand where those of any other line of this width do. -/
structure Aligned (width : Nat) (text : List Char) : Prop where
  length : text.length = 35 + width
  bars : ∀ place ∈ [0, 17, 31, 34 + width], text[place]? = some '|'

theorem getElem?_bar {front back : List Char} {place : Nat} (hplace : front.length = place) :
    (front ++ '|' :: back)[place]? = some '|' := by
  subst hplace
  simp

theorem aligned_line {width : Nat} {count total name : List Char} (hcount : count.length ≤ 14)
    (htotal : total.length ≤ 11) (hname : name.length ≤ width) :
    Aligned width (line width count total name) := by
  have hfirst := length_cell hcount
  have hsecond := length_cell htotal
  have hthird := length_cell hname
  constructor
  · simp only [line, List.length_append, List.length_cons, List.length_nil]
    omega
  · intro place hplace
    simp only [List.mem_cons, List.not_mem_nil, or_false] at hplace
    rcases hplace with rfl | rfl | rfl | rfl
    · rfl
    · have hsplit : line width count total name =
          ('|' :: cell 14 count) ++ '|' :: (cell 11 total ++ '|' :: cell width name ++ ['|']) := by
        simp [line]
      rw [hsplit]
      exact getElem?_bar (by simp [hfirst])
    · have hsplit : line width count total name =
          ('|' :: cell 14 count ++ '|' :: cell 11 total) ++ '|' :: (cell width name ++ ['|']) := by
        simp [line]
      rw [hsplit]
      exact getElem?_bar (by simp [hfirst, hsecond])
    · exact getElem?_bar (by simp [hfirst, hsecond, hthird]; omega)

/-! ## Legible names -/

/-- A name that stays within its line and does not end like padding. -/
structure Legible (name : String) : Prop where
  newline_notMem : '\n' ∉ name.toList
  getLast?_ne : name.toList.getLast? ≠ some ' '

instance (name : String) : Decidable (Legible name) :=
  decidable_of_iff ('\n' ∉ name.toList ∧ name.toList.getLast? ≠ some ' ')
    ⟨fun both => ⟨both.1, both.2⟩, fun legible => ⟨legible.1, legible.2⟩⟩

theorem readRow_lineOf (width : Nat) {row : Row} (legible : Legible row.name) :
    readRow (lineOf width row) = some row := by
  have hcount : ' ' ∉ (toString row.count).toList := fun hc =>
    absurd (Text.isDigit_of_mem_toString hc) (by decide)
  have htotal : ' ' ∉ (toString row.total).toList := fun hc =>
    absurd (Text.isDigit_of_mem_toString_int hc) (by decide)
  have hline : lineOf width row =
      '|' :: (cell 14 (toString row.count).toList ++ '|' ::
        (cell 11 (toString row.total).toList ++ '|' :: (cell width row.name.toList ++ ['|']))) := by
    simp [lineOf, line]
  have hread : (toString row.count).toNat? = some row.count := Nat.toNat?_repr row.count
  have hread' : (toString row.total).toInt? = some row.total := Int.toInt?_repr row.total
  rw [hline, readRow]
  simp only [readCell_cell _ hcount, readCell_cell _ htotal,
    readName_cell width legible.getLast?_ne, Option.bind_eq_bind, Option.bind_some,
    String.ofList_toList, hread, hread', Option.pure_def]

theorem mapM_readRow_lineOf (width : Nat) {rows : List Row}
    (hlegible : ∀ row ∈ rows, Legible row.name) :
    (rows.map (lineOf width)).mapM readRow = some rows := by
  induction rows with
  | nil => rfl
  | cons row rest ih =>
      obtain ⟨hrow, hrest⟩ := List.forall_mem_cons.mp hlegible
      rw [List.map_cons, List.mapM_cons, readRow_lineOf width hrow, ih hrest]
      rfl

theorem newline_notMem_line (width : Nat) {count total name : List Char} (hcount : '\n' ∉ count)
    (htotal : '\n' ∉ total) (hname : '\n' ∉ name) : '\n' ∉ line width count total name := by
  simp [line, cell, hcount, htotal, hname]

theorem newline_notMem_lines {report : Report} (hlegible : ∀ row ∈ report.rows, Legible row.name) :
    ∀ line ∈ report.lines, '\n' ∉ line := by
  intro line hline
  rcases List.mem_cons.mp hline with rfl | hline
  · exact newline_notMem_line _ (by decide) (by decide) (by decide)
  · obtain ⟨row, hrow, rfl⟩ := List.mem_map.mp hline
    exact newline_notMem_line _ (fun hc => absurd (Text.isDigit_of_mem_toString hc) (by decide))
      (fun hc => absurd (Text.isDigit_of_mem_toString_int hc) (by decide))
      (hlegible row hrow).newline_notMem

theorem aligned_heading {width : Nat} (hwidth : nameHeading.length ≤ width) :
    Aligned width (heading width) :=
  aligned_line (by decide) (by decide) (by rwa [String.length_toList])

/-- Nothing of a report is lost in its table. -/
theorem readTable_table {report : Report} (hwidth : nameHeading.length ≤ report.nameWidth)
    (hlegible : ∀ row ∈ report.rows, Legible row.name) : readTable report.table = some report := by
  have hcut : Text.cut '\n' report.table.toList = report.lines ++ [[]] := by
    rw [toList_table, Text.cut_flatMap (newline_notMem_lines hlegible)]
  have hheading : (heading report.nameWidth).length - 35 = report.nameWidth := by
    rw [(aligned_heading hwidth).length, Nat.add_sub_cancel_left]
  rw [readTable, hcut, lines, List.cons_append]
  simp only [List.dropLast_concat, mapM_readRow_lineOf _ hlegible, hheading, Option.bind_eq_bind,
    Option.bind_some, Option.pure_def]

/-- The lines of a table whose numbers fit their columns. -/
theorem aligned_lines {report : Report} (hwidth : nameHeading.length ≤ report.nameWidth)
    (hnames : ∀ row ∈ report.rows, row.name.length ≤ report.nameWidth)
    (hcounts : ∀ row ∈ report.rows, (toString row.count).length ≤ 14)
    (htotals : ∀ row ∈ report.rows, (toString row.total).length ≤ 11) :
    ∀ line ∈ report.lines, Aligned report.nameWidth line := by
  intro line hline
  rcases List.mem_cons.mp hline with rfl | hline
  · exact aligned_heading hwidth
  · obtain ⟨row, hrow, rfl⟩ := List.mem_map.mp hline
    refine aligned_line ?_ ?_ ?_
    · rw [String.length_toList]
      exact hcounts row hrow
    · rw [String.length_toList]
      exact htotals row hrow
    · rw [String.length_toList]
      exact hnames row hrow

end Report

namespace Histogram

variable (histogram : Histogram) (most : Nat) (display : String → String)

theorem length_nameHeading_le :
    Report.nameHeading.length ≤ (histogram.report most display).nameWidth :=
  (Report.isGreatest_foldl_max _ _).2 (Set.mem_insert _ _)

theorem length_name_le {row : Row} (hrow : row ∈ (histogram.report most display).rows) :
    row.name.length ≤ (histogram.report most display).nameWidth :=
  (Report.isGreatest_foldl_max _ _).2 (.inr ⟨row, hrow, rfl⟩)

/-- A table whose names are legible has one line for the headings and one for each row, and from
these the report can be read back: no other report has the same table. If the numbers fit their
columns, all lines are equally long and their bars stand below each other. -/
theorem report_of_table
    (hlegible : ∀ row ∈ (histogram.report most display).rows, Report.Legible row.name) :
    let report := histogram.report most display
    Report.readTable report.table = some report ∧
    (∀ (other : Histogram) (most' : Nat) (display' : String → String),
      (∀ row ∈ (other.report most' display').rows, Report.Legible row.name) →
      (other.report most' display').table = report.table →
        other.report most' display' = report) ∧
    ∃ lines : List (List Char), report.table.toList = lines.flatMap (· ++ ['\n']) ∧
      (∀ line ∈ lines, '\n' ∉ line) ∧ lines.length = report.rows.length + 1 ∧
      ((∀ row ∈ report.rows, (toString row.count).length ≤ 14 ∧
          (toString row.total).length ≤ 11) →
        ∀ text ∈ lines, text.length = 35 + report.nameWidth ∧
          ∀ place ∈ [0, 17, 31, 34 + report.nameWidth], text[place]? = some '|') := by
  intro report
  have hread := Report.readTable_table (histogram.length_nameHeading_le most display) hlegible
  refine ⟨hread, ?_, report.lines, report.toList_table, Report.newline_notMem_lines hlegible,
    ?_, ?_⟩
  · intro other most' display' hother hsame
    have hreadOther :=
      Report.readTable_table (other.length_nameHeading_le most' display') hother
    rw [hsame, hread] at hreadOther
    exact (Option.some.inj hreadOther).symm
  · rw [Report.lines, List.length_cons, List.length_map]
  · intro hfits line hline
    have aligned := Report.aligned_lines (histogram.length_nameHeading_le most display)
      (fun row hrow => histogram.length_name_le most display hrow)
      (fun row hrow => (hfits row hrow).1) (fun row hrow => (hfits row hrow).2) line hline
    exact ⟨aligned.length, aligned.bars⟩

/-- Three classes, two of which take equally many bytes. -/
def tiedClasses : Histogram := ofRecords [("LC;", 24), ("LB;", -7), ("LA;", 24)]

/-- Names for them, with bars and blanks in them or none at all. -/
def awkwardName (signature : String) : String :=
  if signature = "LA;" then "" else if signature = "LB;" then " | 12 é" else "C |x"

theorem rows_tiedClasses :
    (tiedClasses.report 0 awkwardName).rows =
      [⟨1, 24, ""⟩, ⟨1, 24, "C |x"⟩, ⟨1, -7, " | 12 é"⟩] := by
  have hentries : tiedClasses.entries = [("LA;", ⟨1, 24⟩), ("LB;", ⟨1, -7⟩), ("LC;", ⟨1, 24⟩)] := by
    decide +kernel
  have arranges : Report.Arranges [("LA;", ⟨1, 24⟩), ("LC;", ⟨1, 24⟩), ("LB;", ⟨1, -7⟩)]
      tiedClasses.entries := by
    rw [hentries]
    exact ⟨by decide, by decide⟩
  have hrows := Report.rows_ofEntries 0 awkwardName tiedClasses.entries
  rw [← arranges.eq_mergeSort (nodup_signatures tiedClasses), hentries] at hrows
  exact hrows.trans (by decide)

theorem report_of_table_tied :
    (∀ row ∈ (tiedClasses.report 0 awkwardName).rows, Report.Legible row.name) ∧
      Report.readTable (tiedClasses.report 0 awkwardName).table =
        some (tiedClasses.report 0 awkwardName) ∧
      ∃ lines : List (List Char),
        (tiedClasses.report 0 awkwardName).table.toList = lines.flatMap (· ++ ['\n']) ∧
        lines.length = 4 ∧ ∀ line ∈ lines, line.length = 45 := by
  have hlegible : ∀ row ∈ (tiedClasses.report 0 awkwardName).rows, Report.Legible row.name := by
    rw [rows_tiedClasses]
    decide
  have hwidth : (tiedClasses.report 0 awkwardName).nameWidth = 10 := by
    change Report.widthOf (tiedClasses.report 0 awkwardName).rows = 10
    rw [rows_tiedClasses]
    decide
  obtain ⟨hread, -, lines, htable, -, hlength, halign⟩ :=
    report_of_table tiedClasses 0 awkwardName hlegible
  rw [rows_tiedClasses] at hlength halign
  rw [hwidth] at halign
  have hfits := halign (by decide)
  exact ⟨hlegible, hread, lines, htable, hlength, fun line hline => (hfits line hline).1⟩

end Histogram

end ExhaustionGuard.Heap
