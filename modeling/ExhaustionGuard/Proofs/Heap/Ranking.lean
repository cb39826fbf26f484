import ExhaustionGuard.Proofs.Heap.Tally
import Mathlib.Order.Bounds.Basic

/-! # The greatest classes of a histogram

The entries of a histogram have one arrangement by size, largest first, in which
signatures decide among equals. A report shows a front part of it, whatever the
names under which it shows them, and is as wide as the names that it shows.
-/

namespace ExhaustionGuard.Heap

namespace Report

/-- An entry takes more bytes than another, or as many and its signature comes first. -/
def Precedes (left right : String × ClassStats) : Prop :=
  right.2.total.toInt < left.2.total.toInt ∨
    right.2.total.toInt = left.2.total.toInt ∧ left.1 < right.1

instance : DecidableRel Precedes := fun _ _ => inferInstanceAs (Decidable (_ ∨ _))

/-- The entries of a histogram, each before those that it precedes. -/
structure Arranges (arranged entries : List (String × ClassStats)) : Prop where
  perm : arranged.Perm entries
  pairwise : arranged.Pairwise Precedes

theorem Precedes.ranksBefore {left right : String × ClassStats} (hprecedes : Precedes left right) :
    ranksBefore left right = true :=
  (ranksBefore_iff left right).mpr
    (hprecedes.imp_right fun hlevel => ⟨hlevel.1, String.not_lt.mp (String.lt_asymm hlevel.2)⟩)

theorem precedes_of_ranksBefore {left right : String × ClassStats}
    (hbefore : ranksBefore left right = true) (hne : left.1 ≠ right.1) : Precedes left right :=
  ((ranksBefore_iff left right).mp hbefore).imp_right fun hlevel =>
    ⟨hlevel.1, String.not_le.mp fun hge => hne (String.le_antisymm hlevel.2 hge)⟩

/-- Different signatures leave no two entries level. -/
theorem arranges_mergeSort {entries : List (String × ClassStats)}
    (hnodup : (entries.map Prod.fst).Nodup) :
    Arranges (entries.mergeSort ranksBefore) entries := by
  have hsorted := List.pairwise_mergeSort ranksBefore_trans ranksBefore_total entries
  have hperm := List.mergeSort_perm entries ranksBefore
  have hne : (entries.mergeSort ranksBefore).Pairwise fun left right => left.1 ≠ right.1 :=
    List.pairwise_map.mp ((hperm.map Prod.fst).nodup_iff.mpr hnodup)
  exact ⟨hperm, (hsorted.and hne).imp fun hboth => precedes_of_ranksBefore hboth.1 hboth.2⟩

theorem Arranges.eq_mergeSort {arranged entries : List (String × ClassStats)}
    (arranges : Arranges arranged entries) (hnodup : (entries.map Prod.fst).Nodup) :
    arranged = entries.mergeSort ranksBefore := by
  rw [mergeSort_eq_of_perm arranges.perm.symm hnodup]
  exact (List.mergeSort_of_pairwise (arranges.pairwise.imp Precedes.ranksBefore)).symm

/-- No entry takes more bytes than one that stands before it. -/
theorem Arranges.total_le {arranged entries : List (String × ClassStats)}
    (arranges : Arranges arranged entries) {kept : Nat} {shown left : String × ClassStats}
    (hshown : shown ∈ arranged.take kept) (hleft : left ∈ arranged.drop kept) :
    left.2.total.toInt ≤ shown.2.total.toInt := by
  have hsplit := arranges.pairwise
  rw [← arranged.take_append_drop kept, List.pairwise_append] at hsplit
  rcases hsplit.2.2 shown hshown left hleft with hless | ⟨hlevel, -⟩
  · exact hless.le
  · exact hlevel.le

theorem rows_ofEntries (most : Nat) (display : String → String)
    (entries : List (String × ClassStats)) :
    (ofEntries most display entries).rows =
      ((entries.mergeSort ranksBefore).take
        (if most = 0 then entries.length else min most entries.length)).map (row display) := by
  change (keep most _).map _ = _
  unfold keep
  split
  · rw [← entries.length_mergeSort, List.take_length]
  · rw [← entries.length_mergeSort, ← List.take_eq_take_min]

/-- The names of rows with a least width that they need. -/
theorem isGreatest_foldl_max (rows : List Row) (least : Nat) :
    IsGreatest (insert least { width | ∃ row ∈ rows, row.name.length = width })
      (rows.foldl (fun width row => max width row.name.length) least) := by
  -- the width so far is that of the rows so far, so it is arbitrary here
  induction rows generalizing least with
  | nil => simp [IsGreatest, upperBounds]
  | cons row rest ih =>
      obtain ⟨hmem, hbound⟩ := ih (max least row.name.length)
      have hmax := hbound (Set.mem_insert _ _)
      rw [List.foldl_cons]
      constructor
      · rcases hmem with hsame | ⟨other, hother, hwidth⟩
        · rw [hsame]
          rcases max_choice least row.name.length with hleft | hright
          · exact .inl hleft
          · exact .inr ⟨row, List.mem_cons_self, hright.symm⟩
        · exact .inr ⟨other, List.mem_cons_of_mem _ hother, hwidth⟩
      · rintro width (rfl | ⟨other, hother, rfl⟩)
        · exact (le_max_left _ _).trans hmax
        · rcases List.mem_cons.mp hother with rfl | hrest
          · exact (le_max_right _ _).trans hmax
          · exact hbound (.inr ⟨other, hrest, rfl⟩)

end Report

/-- The rows of a report are the first entries in the one arrangement of the histogram, by size and
then by signature, each under the name for its signature. None that is left out takes more bytes
than one that is kept, and a longer report goes on where this one ends. The names are as wide as the
heading or the longest name that is kept. -/
theorem Histogram.report_keeps_greatest (histogram : Histogram) (most : Nat)
    (display : String → String) :
    let report := histogram.report most display
    let kept := if most = 0 then histogram.entries.length else min most histogram.entries.length
    (∃ arranged, Report.Arranges arranged histogram.entries ∧
      (∀ other, Report.Arranges other histogram.entries → other = arranged) ∧
      (arranged.map Prod.fst).Nodup ∧
      (∀ signature stats, (signature, stats) ∈ arranged ↔
        histogram.get? signature = some stats) ∧
      report.rows = (arranged.take kept).map (fun entry =>
        ⟨entry.2.count.toNat, entry.2.total.toInt, display entry.1⟩) ∧
      ∀ shown ∈ arranged.take kept, ∀ left ∈ arranged.drop kept,
        left.2.total.toInt ≤ shown.2.total.toInt) ∧
    report.rows.length = kept ∧
    report.rows <+: (histogram.report 0 display).rows ∧
    IsGreatest (insert 10 { width | ∃ row ∈ report.rows, row.name.length = width })
      report.nameWidth := by
  intro report kept
  have hnodup := nodup_signatures histogram
  have arranges := Report.arranges_mergeSort hnodup
  have hrows : report.rows = _ := Report.rows_ofEntries most display histogram.entries
  refine ⟨⟨_, arranges, fun other hother => hother.eq_mergeSort hnodup,
    (arranges.perm.map Prod.fst).nodup_iff.mpr hnodup, fun signature stats => ?_, hrows,
    fun shown hshown left hleft => arranges.total_le hshown hleft⟩, ?_, ?_,
    Report.isGreatest_foldl_max report.rows 10⟩
  · rw [arranges.perm.mem_iff, mem_entries]
  · have hkept : kept ≤ histogram.entries.length := by grind
    calc report.rows.length
        = ((histogram.entries.mergeSort Report.ranksBefore).take kept).length := by
          rw [hrows, List.length_map]
      _ = kept := by rw [List.length_take, List.length_mergeSort, min_eq_left hkept]
  · have hall : (histogram.report 0 display).rows = _ :=
      Report.rows_ofEntries 0 display histogram.entries
    rw [if_pos rfl, ← histogram.entries.length_mergeSort, List.take_length] at hall
    rw [hrows, hall]
    exact (List.take_prefix _ _).map _

end ExhaustionGuard.Heap
