import ExhaustionGuard.MemoryReport
import ExhaustionGuard.Proofs.Text.Numerals
import Mathlib.Data.List.DropRight
import Std.Data.String.ToInt

/-! # The lines of a memory report

Each area has a line with its numbers, and where there is a hint it stands
directly below. The line of an area is read from its end: there the numbers and
their labels are, while the name in front of them may be any text. Read in this
way a report says of each area what the machine said of it, and of no other.
-/

namespace ExhaustionGuard.MemoryReport

/-! ## Reading a line -/

/-- Takes a number and the label before it off the end of a text. -/
def readField (label : String) (text : List Char) : Option (List Char × Int) := do
  let rest ← (text.rdropWhile (· ≠ ' ')).dropSuffix? label.toList
  let number ← (String.ofList (text.rtakeWhile (· ≠ ' '))).toInt?
  pure (rest, number)

/-- Reads the line of an area; any other line is none. -/
def readLine (line : String) : Option PoolUsage := do
  let text ← line.toList.dropSuffix? ['\n']
  let (text, maximum) ← readField ", max " text
  let (text, committed) ← readField ", committed " text
  let (text, used) ← readField ", used " text
  let (text, initial) ← readField ": init " text
  let name ← text.dropPrefix? "   ".toList
  pure ⟨String.ofList name, ⟨initial, used, committed, maximum⟩⟩

theorem blank_notMem_toString (n : Int) : ' ' ∉ (toString n).toList := fun hc =>
  absurd (Text.isDigit_of_mem_toString_int hc) (by decide)

/-- A number behind the last blank of a text is found there. -/
theorem readField_append (label : String) (hlabel : label.toList.getLast? = some ' ')
    (rest : List Char) (n : Int) :
    readField label (rest ++ label.toList ++ (toString n).toList) = some (rest, n) := by
  have hdigits : ∀ c ∈ (toString n).toList.reverse, decide (c ≠ ' ') = true := by
    intro c hc
    exact decide_eq_true fun heq =>
      blank_notMem_toString n (heq ▸ List.mem_reverse.mp hc)
  have hblank : (rest ++ label.toList).reverse.head? = some ' ' := by
    rw [List.head?_reverse, List.getLast?_append, hlabel]
    rfl
  obtain ⟨back, hback⟩ := List.head?_eq_some_iff.mp hblank
  have hdrop : (rest ++ label.toList ++ (toString n).toList).rdropWhile (· ≠ ' ') =
      rest ++ label.toList := by
    rw [List.rdropWhile, List.reverse_append, List.dropWhile_append_of_pos hdigits, hback,
      List.dropWhile_cons_of_neg (by decide), ← hback, List.reverse_reverse]
  have htake : (rest ++ label.toList ++ (toString n).toList).rtakeWhile (· ≠ ' ') =
      (toString n).toList := by
    rw [List.rtakeWhile, List.reverse_append, List.takeWhile_append_of_pos hdigits, hback,
      List.takeWhile_cons_of_neg (by decide), List.append_nil, List.reverse_reverse]
  have hlabelled : (rest ++ label.toList).dropSuffix? label.toList = some rest :=
    List.dropSuffix?_eq_some_iff.mpr ⟨label.toList, rfl, by simp⟩
  have hnumber : (toString n).toInt? = some n := Int.toInt?_repr n
  rw [readField, hdrop, htake, hlabelled, String.ofList_toList, hnumber]
  rfl

/-- The line of an area without its end. -/
def areaText (name : String) (usage : MemoryUsage) : List Char :=
  "   ".toList ++ name.toList ++ ": init ".toList ++ (toString usage.initial).toList ++
    ", used ".toList ++ (toString usage.used).toList ++
    ", committed ".toList ++ (toString usage.committed).toList ++
    ", max ".toList ++ (toString usage.maximum).toList

theorem toList_usageLine (name : String) (usage : MemoryUsage) :
    (usageLine name usage).toList = areaText name usage ++ ['\n'] := by
  -- the definitions are opened without their equations, for which the labels would be evaluated
  delta usageLine areaText
  simp only [String.toList_append]
  rfl

/-- The line of an area says its name and its numbers, whatever its name is. -/
theorem readLine_usageLine (name : String) (usage : MemoryUsage) :
    readLine (usageLine name usage) = some ⟨name, usage⟩ := by
  have hend : (usageLine name usage).toList.dropSuffix? ['\n'] = some (areaText name usage) :=
    List.dropSuffix?_eq_some_iff.mpr ⟨['\n'], toList_usageLine name usage, rfl⟩
  have hname : ("   ".toList ++ name.toList).dropPrefix? "   ".toList = some name.toList :=
    List.dropPrefix?_append_of_beq _ rfl
  rw [readLine, hend]
  delta areaText
  simp only [Option.bind_eq_bind, Option.bind_some, readField_append ", max " rfl,
    readField_append ", committed " rfl, readField_append ", used " rfl,
    readField_append ": init " rfl, hname, String.ofList_toList, Option.pure_def]

/-! ## Reading a report -/

/-- The line of a hint. -/
def hintLine (hint : String) : String :=
  "      Hint: " ++ hint ++ "\n"

/-- Lines that show areas in their order, each with its hint directly below it or with none. -/
inductive Shows : List PoolUsage → List String → Prop
  | nil : Shows [] []
  | plain {area areas texts} : hint? area.name area.usage = none → Shows areas texts →
      Shows (area :: areas) (usageLine area.name area.usage :: texts)
  | hinted {area areas texts hint} : hint? area.name area.usage = some hint →
      Shows areas texts →
      Shows (area :: areas) (usageLine area.name area.usage :: hintLine hint :: texts)

theorem shows_areaLines (areas : List PoolUsage) :
    Shows areas (areas.flatMap fun area => areaLines area.name area.usage) := by
  induction areas with
  | nil => exact .nil
  | cons area rest ih =>
      rw [List.flatMap_cons, areaLines]
      cases hhint : hint? area.name area.usage with
      | none => exact .plain hhint ih
      | some hint => exact .hinted hhint ih

/-- The hint for an area is the advice for it. -/
theorem advice?_of_hint? {name : String} {usage : MemoryUsage} {hint : String}
    (hhint : hint? name usage = some hint) : advice? name = some hint := by
  rw [hint?] at hhint
  split at hhint
  · exact hhint
  · cases hhint

/-- A hint is not taken for the line of an area. -/
theorem readLine_hintLine {name : String} {usage : MemoryUsage} {hint : String}
    (hhint : hint? name usage = some hint) : readLine (hintLine hint) = none := by
  have hadvice : advice? name = some hint := advice?_of_hint? hhint
  unfold advice? at hadvice
  split at hadvice
  · cases hadvice
    decide +kernel
  · cases hadvice
    decide +kernel
  · cases hadvice
    decide +kernel
  · cases hadvice

namespace Shows

variable {areas : List PoolUsage} {texts : List String}

theorem filterMap_readLine (shows : Shows areas texts) : texts.filterMap readLine = areas := by
  induction shows with
  | nil => rfl
  | plain _ _ ih => simp [readLine_usageLine, ih]
  | hinted hhint _ ih => simp [readLine_usageLine, readLine_hintLine hhint, ih]

theorem getLast?_eq (shows : Shows areas texts) :
    ∀ text ∈ texts, text.toList.getLast? = some '\n' := by
  have hline : ∀ text : String, (text ++ "\n").toList.getLast? = some '\n' := by simp
  induction shows with
  | nil => exact List.forall_mem_nil _
  | plain _ _ ih => exact List.forall_mem_cons.mpr ⟨hline _, ih⟩
  | hinted _ _ ih =>
      exact List.forall_mem_cons.mpr ⟨hline _, List.forall_mem_cons.mpr ⟨hline _, ih⟩⟩

end Shows

/-- The texts of a report about the heap, the memory beside it and the pools. -/
structure Reports (heap nonHeap : MemoryUsage) (pools : List PoolUsage) (texts : List String) :
    Prop where
  layout : ∃ sums listing, Shows [⟨"Heap memory", heap⟩, ⟨"Non-heap memory", nonHeap⟩] sums ∧
    Shows pools listing ∧
    texts = "Memory usage:\n" :: sums ++ "\n" :: "Memory pool usage:\n" :: listing
  /-- Of each area the report says what is asked for, and of no other area anything. -/
  numbers : texts.filterMap readLine =
    ⟨"Heap memory", heap⟩ :: ⟨"Non-heap memory", nonHeap⟩ :: pools
  lines : ∀ text ∈ texts, text.toList.getLast? = some '\n'

theorem reports_lines (heap nonHeap : MemoryUsage) (pools : List PoolUsage) :
    Reports heap nonHeap pools (lines heap nonHeap pools) := by
  have hsums := shows_areaLines [⟨"Heap memory", heap⟩, ⟨"Non-heap memory", nonHeap⟩]
  have hlisting := shows_areaLines pools
  have hlines : lines heap nonHeap pools =
      "Memory usage:\n" :: ([⟨"Heap memory", heap⟩, ⟨"Non-heap memory", nonHeap⟩].flatMap
        fun area : PoolUsage => areaLines area.name area.usage) ++
      "\n" :: "Memory pool usage:\n" ::
        pools.flatMap fun area => areaLines area.name area.usage := by
    simp [lines]
  have hheadings : readLine "Memory usage:\n" = none ∧ readLine "\n" = none ∧
      readLine "Memory pool usage:\n" = none := by
    decide
  refine ⟨⟨_, _, hsums, hlisting, hlines⟩, ?_, ?_⟩
  · have hread := hsums.filterMap_readLine
    have hread' := hlisting.filterMap_readLine
    rw [hlines, List.filterMap_append, List.filterMap_cons_none hheadings.1, hread,
      List.filterMap_cons_none hheadings.2.1, List.filterMap_cons_none hheadings.2.2, hread']
    rfl
  · rw [hlines]
    simp only [List.forall_mem_cons, List.forall_mem_append]
    exact ⟨⟨by decide, hsums.getLast?_eq⟩, by decide, by decide, hlisting.getLast?_eq⟩

end ExhaustionGuard.MemoryReport
