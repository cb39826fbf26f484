import ExhaustionGuard.Heap.Report
import ExhaustionGuard.Proofs.Heap.Census
import Mathlib.Data.Finset.Dedup
import Mathlib.Data.List.Perm.Basic

/-! # Histograms of recorded objects

A histogram says how many objects were recorded for each signature and how many
bytes these take; when they were recorded does not matter. A report arranges
the entries by size and signature. No two entries share a signature, so there
is one such arrangement, whatever order the entries come in.
-/

namespace ExhaustionGuard.Heap

namespace Histogram

/-- The histogram of objects recorded one after another, each with its signature and size. -/
def ofRecords (records : List (String × Int)) : Histogram :=
  records.foldl (fun histogram record => histogram.record record.1 record.2) empty

/-- The sizes recorded for a signature, in order. -/
def sizesOf (records : List (String × Int)) (signature : String) : List Int :=
  (records.filter fun record => record.1 = signature).map Prod.snd

theorem ofRecords_concat (records : List (String × Int)) (record : String × Int) :
    ofRecords (records ++ [record]) = (ofRecords records).record record.1 record.2 :=
  List.foldl_concat _ _ _ _

theorem sizesOf_concat (records : List (String × Int)) (record : String × Int)
    (signature : String) :
    sizesOf (records ++ [record]) signature =
      if record.1 = signature then sizesOf records signature ++ [record.2]
      else sizesOf records signature := by
  by_cases hsame : record.1 = signature <;> simp [sizesOf, hsame]

/-- A signature has the objects that were recorded for it. -/
theorem get?_ofRecords (records : List (String × Int)) (signature : String) :
    (ofRecords records).get? signature =
      (Tally.ofSizes (sizesOf records signature)).map Tally.words := by
  -- a histogram grows at the end of what was recorded
  induction records using List.reverseRecOn with
  | nil => exact get?_empty signature
  | append_singleton records record ih =>
      rw [ofRecords_concat, get?_record, sizesOf_concat]
      split
      next hsame => rw [Tally.ofSizes_concat, hsame, ih, Option.map_some, Tally.words_add]
      next => exact ih

theorem get?_ofRecords_eq_none_iff (records : List (String × Int)) (signature : String) :
    (ofRecords records).get? signature = none ↔ signature ∉ records.map Prod.fst := by
  rw [get?_ofRecords, Option.map_eq_none_iff, Tally.ofSizes_eq_none_iff, sizesOf, List.map_eq_nil_iff,
    List.filter_eq_nil_iff]
  simp only [decide_eq_true_eq, List.mem_map, not_exists, not_and]

theorem entries_eq_of_perm {records others : List (String × Int)} (hperm : records.Perm others) :
    (ofRecords records).entries = (ofRecords others).entries := by
  apply entries_eq_of_get?_eq
  intro signature
  have hsizes : (sizesOf records signature).Perm (sizesOf others signature) :=
    (hperm.filter _).map _
  rw [get?_ofRecords, get?_ofRecords, Tally.ofSizes_eq_of_perm hsizes]

/-! ## Entries -/

theorem mem_entries {histogram : Histogram} {entry : String × ClassStats} :
    entry ∈ histogram.entries ↔ histogram.get? entry.1 = some entry.2 :=
  Std.TreeMap.mem_toList_iff_getElem?_eq_some

theorem nodup_signatures (histogram : Histogram) : (histogram.entries.map Prod.fst).Nodup := by
  rw [entries, Std.TreeMap.map_fst_toList_eq_keys]
  exact Std.TreeMap.nodup_keys

theorem mem_signatures {histogram : Histogram} {signature : String} :
    signature ∈ histogram.entries.map Prod.fst ↔ histogram.get? signature ≠ none := by
  simp only [List.mem_map, Prod.exists, exists_and_right, exists_eq_right, mem_entries,
    ← Option.isSome_iff_ne_none, Option.isSome_iff_exists]

theorem length_signatures (histogram : Histogram) :
    (histogram.entries.map Prod.fst).length = histogram.size := by
  rw [List.length_map]
  exact Std.TreeMap.length_toList

/-- There is one entry for each signature that was recorded. -/
theorem size_ofRecords (records : List (String × Int)) :
    (ofRecords records).size = (records.map Prod.fst).toFinset.card := by
  have hsignatures : ((ofRecords records).entries.map Prod.fst).toFinset =
      (records.map Prod.fst).toFinset := by
    ext signature
    rw [List.mem_toFinset, List.mem_toFinset, mem_signatures, Ne, get?_ofRecords_eq_none_iff,
      not_not]
  rw [← length_signatures, ← hsignatures, List.toFinset_card_of_nodup (nodup_signatures _)]

end Histogram

namespace Report

theorem ranksBefore_iff (left right : String × ClassStats) :
    ranksBefore left right = true ↔
      right.2.total.toInt < left.2.total.toInt ∨
        (right.2.total.toInt = left.2.total.toInt ∧ left.1 ≤ right.1) := by
  simp [ranksBefore]

theorem ranksBefore_trans (first second third : String × ClassStats)
    (hfirst : ranksBefore first second = true) (hsecond : ranksBefore second third = true) :
    ranksBefore first third = true := by
  rw [ranksBefore_iff] at *
  rcases hfirst with hless | ⟨hequal, hle⟩
  · rcases hsecond with hless' | ⟨hequal', _⟩ <;> omega
  · rcases hsecond with hless' | ⟨hequal', hle'⟩
    · omega
    · exact .inr ⟨hequal'.trans hequal, String.le_trans hle hle'⟩

theorem ranksBefore_total (left right : String × ClassStats) :
    (ranksBefore left right || ranksBefore right left) = true := by
  rw [Bool.or_eq_true, ranksBefore_iff, ranksBefore_iff]
  rcases lt_trichotomy left.2.total.toInt right.2.total.toInt with hless | hequal | hless
  · exact .inr (.inl hless)
  · exact (String.le_total left.1 right.1).imp (fun hle => .inr ⟨hequal.symm, hle⟩)
      fun hle => .inr ⟨hequal, hle⟩
  · exact .inl (.inl hless)

/-- Entries that are level with each other have the same signature. -/
theorem signature_eq_of_ranksBefore {left right : String × ClassStats}
    (hleft : ranksBefore left right = true) (hright : ranksBefore right left = true) :
    left.1 = right.1 := by
  rw [ranksBefore_iff] at *
  rcases hleft with hless | ⟨_, hle⟩
  · omega
  · rcases hright with hless' | ⟨_, hle'⟩
    · omega
    · exact String.le_antisymm hle hle'

/-- Entries with different signatures have one arrangement. -/
theorem mergeSort_eq_of_perm {entries others : List (String × ClassStats)}
    (hperm : entries.Perm others) (hnodup : (entries.map Prod.fst).Nodup) :
    entries.mergeSort ranksBefore = others.mergeSort ranksBefore := by
  have hsorted := List.pairwise_mergeSort ranksBefore_trans ranksBefore_total
  refine List.Perm.eq_of_pairwise ?_ (hsorted entries) (hsorted others) ?_
  · intro left right hleft hright hbefore hafter
    rw [List.mem_mergeSort] at hleft hright
    exact List.inj_on_of_nodup_map hnodup hleft (hperm.mem_iff.mpr hright)
      (signature_eq_of_ranksBefore hbefore hafter)
  · exact (List.mergeSort_perm entries _).trans (hperm.trans (List.mergeSort_perm others _).symm)

theorem ofEntries_eq_of_perm {entries others : List (String × ClassStats)}
    (hperm : entries.Perm others) (hnodup : (entries.map Prod.fst).Nodup) (most : Nat)
    (display : String → String) :
    ofEntries most display entries = ofEntries most display others := by
  simp only [ofEntries, mergeSort_eq_of_perm hperm hnodup]

end Report

namespace Histogram

/-- What was recorded decides what a histogram holds and how it is reported. The order in which it
was recorded does not, and neither does the order in which the report is given the entries. -/
theorem report_in_any_order (records : List (String × Int)) :
    (∀ signature, (ofRecords records).Tells signature
      (Tally.ofSizes (sizesOf records signature))) ∧
    (ofRecords records).size = (records.map Prod.fst).toFinset.card ∧
    ∀ others : List (String × Int), others.Perm records →
      ∀ entries : List (String × ClassStats), entries.Perm (ofRecords others).entries →
      ∀ (most : Nat) (display : String → String),
        let given := Report.ofEntries most display entries
        let usual := (ofRecords records).report most display
        given.rows = usual.rows ∧ given.nameWidth = usual.nameWidth ∧
          given.table = usual.table := by
  refine ⟨fun signature => .of_words (get?_ofRecords records signature),
    size_ofRecords records, ?_⟩
  intro others hothers entries hentries most display given usual
  rw [entries_eq_of_perm hothers] at hentries
  have hnodup : (entries.map Prod.fst).Nodup :=
    (hentries.map Prod.fst).nodup_iff.mpr (nodup_signatures _)
  have hreport : given = usual := Report.ofEntries_eq_of_perm hentries hnodup most display
  rw [hreport]
  exact ⟨rfl, rfl, rfl⟩

/-- Objects of two classes that take the same number of bytes. -/
def equalTotals : List (String × Int) :=
  [("LNode;", 8), ("LLeaf;", 24), ("LNode;", 16)]

theorem equalTotals_in_any_order :
    equalTotals.reverse.Perm equalTotals ∧
      (ofRecords equalTotals.reverse).entries.reverse.Perm (ofRecords equalTotals.reverse).entries ∧
      (ofRecords equalTotals).get? "LNode;" = some ⟨2, 24⟩ ∧ (ofRecords equalTotals).size = 2 ∧
      let given := Report.ofEntries 1 (fun _ => "?") (ofRecords equalTotals.reverse).entries.reverse
      let usual := (ofRecords equalTotals).report 1 fun _ => "?"
      given.rows = usual.rows ∧ given.nameWidth = usual.nameWidth ∧ given.table = usual.table := by
  have hreversed : equalTotals.reverse.Perm equalTotals := equalTotals.reverse_perm
  have hentries := (ofRecords equalTotals.reverse).entries.reverse_perm
  obtain ⟨hget, hsize, hreport⟩ := report_in_any_order equalTotals
  refine ⟨hreversed, hentries, (hget _).words.trans (by decide), hsize.trans (by decide), ?_⟩
  exact hreport _ hreversed _ hentries 1 _

end Histogram

end ExhaustionGuard.Heap
