import ExhaustionGuard.Heap.Histogram
import ExhaustionGuard.Text.Decimal

/-!
# Reports of histograms

The classes that take the most bytes come first; among equals the signatures decide. A report
keeps the first of them and is printed as a table whose last column fits the longest name.
-/

namespace ExhaustionGuard.Heap

/-- One line of a report. -/
structure Row where
  count : Nat
  total : Int
  name : String
  deriving DecidableEq, Repr

/-- The lines of a report with the width of their names. -/
structure Report where
  rows : List Row
  nameWidth : Nat
  deriving DecidableEq, Repr

namespace Report

/-- Whether an entry comes before another or is level with it. -/
def ranksBefore (left right : String × ClassStats) : Bool :=
  right.2.total.toInt < left.2.total.toInt ||
    (right.2.total.toInt == left.2.total.toInt && left.1 ≤ right.1)

def nameHeading : String := "Class Name"

/-- The first entries, all of them for a maximum of zero. -/
def keep (most : Nat) (entries : List (String × ClassStats)) : List (String × ClassStats) :=
  if most = 0 then entries else entries.take most

/-- The line that shows an entry. -/
def row (display : String → String) (entry : String × ClassStats) : Row :=
  ⟨entry.2.count.toNat, entry.2.total.toInt, display entry.1⟩

/-- The width that the names of rows need, and the heading. -/
def widthOf (rows : List Row) : Nat :=
  rows.foldl (fun width row => max width row.name.length) nameHeading.length

/-- The report of entries in any order. -/
def ofEntries (most : Nat) (display : String → String) (entries : List (String × ClassStats)) :
    Report :=
  let rows := (keep most (entries.mergeSort ranksBefore)).map (row display)
  ⟨rows, widthOf rows⟩

/-- A line of the table, each cell padded to the width of its column. -/
def tableLine (width : Nat) (count total name : String) : String :=
  "| " ++ Text.padRight 14 count ++ " | " ++ Text.padRight 11 total ++ " | " ++
    Text.padRight width name ++ " |\n"

def rowLine (width : Nat) (row : Row) : String :=
  tableLine width (toString row.count) (toString row.total) row.name

def table (report : Report) : String :=
  tableLine report.nameWidth "Instance Count" "Total Bytes" nameHeading ++
    String.join (report.rows.map (rowLine report.nameWidth))

end Report

def Histogram.report (histogram : Histogram) (most : Nat) (display : String → String) : Report :=
  Report.ofEntries most display histogram.entries

end ExhaustionGuard.Heap
