import ExhaustionGuard.Proofs.Heap.Descriptors
import ExhaustionGuard.Proofs.Heap.Ranking

/-! # Names that tell classes apart

The Java name of a class is read back by taking off the pairs of brackets at its
end and putting slashes for its dots. This gives the descriptor again unless the
text of the class has a dot or an opening bracket in it or is a keyword, so no
two other classes share a name, and neither do two rows of a report on them.
-/

namespace ExhaustionGuard.Heap

/-! ## Reading names back -/

/-- The primitive type with such a keyword. -/
def Primitive.ofKeyword? (word : List Char) : Option Primitive :=
  [boolean, byte, char, double, float, int, long, short].find? fun type =>
    type.keyword.toList = word

/-- Takes the pairs of brackets off a name that is read from its end, and counts them. -/
def takePairs : List Char → Nat × List Char
  | ']' :: '[' :: back => ((takePairs back).1 + 1, (takePairs back).2)
  | back => (0, back)

/-- A character of a name as class texts have it: a slash for a dot. -/
def slashed (c : Char) : Char := if c = '.' then '/' else c

/-- The element that a name without pairs of brackets stands for, as it is in a descriptor. -/
def elementOf (word : List Char) : List Char :=
  match Primitive.ofKeyword? word with
  | some type => [type.code]
  | none => 'L' :: (word.map slashed ++ [';'])

/-- The descriptor that a Java name is read back as. -/
def signatureOf (name : String) : String :=
  let pairs := takePairs name.toList.reverse
  String.ofList (List.replicate pairs.1 '[' ++ elementOf pairs.2.reverse)

theorem takePairs_append (dimensions : Nat) {back : List Char} (hback : '[' ∉ back) :
    takePairs ((List.replicate dimensions [']', '[']).flatten ++ back) = (dimensions, back) := by
  induction dimensions with
  | zero =>
      rw [List.replicate_zero, List.flatten_nil, List.nil_append]
      unfold takePairs
      split
      next rest => simp at hback
      next => rfl
  | succ dimensions ih =>
      simp only [List.replicate_succ, List.flatten_cons, List.cons_append, List.nil_append,
        takePairs, ih]

theorem slashed_dotted {c : Char} (hc : c ≠ '.') : slashed (dotted c) = c := by
  grind [slashed, dotted]

theorem Primitive.ofKeyword?_keyword (type : Primitive) :
    ofKeyword? type.keyword.toList = some type := by
  cases type <;> decide

theorem Primitive.dot_notMem_keyword (type : Primitive) : '.' ∉ type.keyword.toList := by
  cases type <;> decide

theorem Primitive.bracket_notMem_keyword (type : Primitive) : '[' ∉ type.keyword.toList := by
  cases type <;> decide

theorem Primitive.keyword_of_ofKeyword? {word : List Char} {type : Primitive}
    (htype : ofKeyword? word = some type) : type.keyword.toList = word := by
  simpa using List.find?_some htype

/-! ## Ordinary classes -/

/-- A class text without dots and opening brackets that is no keyword. -/
structure ClassText.IsOrdinary (cls : ClassText) : Prop where
  dot_notMem : '.' ∉ cls.text
  bracket_notMem : '[' ∉ cls.text
  keyword_ne : ∀ type : Primitive, type.keyword.toList ≠ cls.text

/-- Every primitive type is ordinary, and so are the classes with ordinary texts. -/
def Element.IsOrdinary : Element → Prop
  | primitive _ => True
  | reference cls => cls.IsOrdinary

/-- A descriptor of an ordinary element, of any dimensions. -/
def IsOrdinary (signature : String) : Prop :=
  ∃ descriptor : Descriptor, descriptor.signature = signature ∧ descriptor.element.IsOrdinary

namespace Element

variable {element : Element} (ordinary : element.IsOrdinary)

include ordinary

theorem IsOrdinary.bracket_notMem_name : '[' ∉ element.name := by
  cases element with
  | primitive type => exact type.bracket_notMem_keyword
  | reference cls =>
      intro hmem
      obtain ⟨c, hc, hshown⟩ := List.mem_map.mp hmem
      unfold dotted at hshown
      split at hshown
      · exact absurd hshown (by decide)
      · exact ordinary.bracket_notMem (hshown ▸ hc)

theorem IsOrdinary.elementOf_name : elementOf element.name = element.chars := by
  cases element with
  | primitive type => rw [name, elementOf, type.ofKeyword?_keyword, chars]
  | reference cls =>
      have hkeyword : Primitive.ofKeyword? (reference cls).name = none := by
        by_contra hsome
        obtain ⟨type, htype⟩ := Option.ne_none_iff_exists'.mp hsome
        have hname : type.keyword.toList = (reference cls).name :=
          Primitive.keyword_of_ofKeyword? htype
        -- a keyword has no dot, so the text has no slash and is the keyword itself
        have hdot := type.dot_notMem_keyword
        rw [hname] at hdot
        have hslash : ∀ c ∈ cls.text, c ≠ '/' := by
          rintro c hc rfl
          exact hdot (List.mem_map.mpr ⟨_, hc, rfl⟩)
        have hsame : (reference cls).name = cls.text :=
          (List.map_congr_left fun c hc => if_neg (hslash c hc)).trans (List.map_id' _)
        exact ordinary.keyword_ne type (hname.trans hsame)
      have hback : (reference cls).name.map slashed = cls.text := by
        have hundone : ∀ c ∈ cls.text, slashed (dotted c) = c := by
          intro c hc
          exact slashed_dotted fun heq => ordinary.dot_notMem (heq ▸ hc)
        rw [name, List.map_map]
        exact (List.map_congr_left hundone).trans (List.map_id' _)
      rw [elementOf, hkeyword, hback, chars]

end Element

section Library

variable {library : Text.RegexLibrary} (supports : library.Supports descriptorPattern)

include supports

theorem signatureOf_className {signature : String} (ordinary : IsOrdinary signature) :
    signatureOf (className library signature) = signature := by
  obtain ⟨descriptor, rfl, hordinary⟩ := ordinary
  have hreverse : descriptor.name.reverse =
      (List.replicate descriptor.dimensions [']', '[']).flatten ++
        descriptor.element.name.reverse := by
    simp [Descriptor.name, List.reverse_flatten]
  have hpairs := takePairs_append descriptor.dimensions
    (List.mem_reverse.not.mpr hordinary.bracket_notMem_name)
  rw [className_signature supports, signatureOf, String.toList_ofList, hreverse]
  simp only [hpairs, List.reverse_reverse, hordinary.elementOf_name]
  rfl

theorem className_injOn {left right : String} (hleft : IsOrdinary left) (hright : IsOrdinary right)
    (hname : className library left = className library right) : left = right := by
  rw [← signatureOf_className supports hleft, ← signatureOf_className supports hright, hname]

end Library

/-- A report shows no name twice if its histogram has no two signatures with one name. -/
theorem Histogram.nodup_names (histogram : Histogram) (most : Nat) {display : String → String}
    (hdisplay : ∀ left ∈ histogram.entries.map Prod.fst,
      ∀ right ∈ histogram.entries.map Prod.fst, display left = display right → left = right) :
    ((histogram.report most display).rows.map Row.name).Nodup := by
  have hnames : ((histogram.entries.map Prod.fst).map display).Nodup :=
    (nodup_signatures histogram).map_on hdisplay
  have hsorted := ((List.mergeSort_perm histogram.entries Report.ranksBefore).map
    (display ∘ Prod.fst)).nodup_iff.mpr (by rwa [List.map_map] at hnames)
  have hrows : (histogram.report most display).rows = _ :=
    Report.rows_ofEntries most display histogram.entries
  rw [hrows, List.map_map]
  exact hsorted.sublist ((List.take_sublist _ _).map _)

/-- With a library that goes by the pattern, the names of ordinary classes tell them apart: each
signature can be read back from its name, different ones have different names, and no two rows of a
report on them show the same. -/
theorem className_tells_apart {library : Text.RegexLibrary}
    (supports : library.Supports descriptorPattern) :
    (∀ signature, IsOrdinary signature →
      signatureOf (className library signature) = signature) ∧
    (∀ left right, IsOrdinary left → IsOrdinary right → left ≠ right →
      className library left ≠ className library right) ∧
    ∀ (histogram : Histogram) (most : Nat),
      (∀ signature stats, histogram.get? signature = some stats → IsOrdinary signature) →
        ((histogram.report most (className library)).rows.map Row.name).Nodup := by
  refine ⟨fun signature => signatureOf_className supports, ?_, ?_⟩
  · intro left right hleft hright hne hname
    exact hne (className_injOn supports hleft hright hname)
  · intro histogram most hordinary
    apply histogram.nodup_names
    intro left hleft right hright
    have hmem : ∀ signature ∈ histogram.entries.map Prod.fst, IsOrdinary signature := by
      intro signature hsignature
      obtain ⟨entry, hentry, rfl⟩ := List.mem_map.mp hsignature
      exact hordinary _ _ (Histogram.mem_entries.mp hentry)
    exact className_injOn supports (hmem left hleft) (hmem right hright)

/-- Dots, brackets and keywords in the text of a class let it share a name. -/
example : className descriptorLibrary "La.b;" = className descriptorLibrary "La/b;" ∧
    className descriptorLibrary "La[];" = className descriptorLibrary "[La;" ∧
    className descriptorLibrary "[Lint;" = className descriptorLibrary "[I" := by
  decide

/-- A table and a table of tables of one class, whose text ends like a dimension. -/
def lookalikes : List (String × Int) :=
  [("[La/b];", 8), ("I", 24), ("[[La/b];", 16)]

theorem isOrdinary_lookalikes :
    ∀ signature ∈ lookalikes.map Prod.fst, IsOrdinary signature := by
  have hordinary : (⟨"a/b]".toList, by decide, by decide⟩ : ClassText).IsOrdinary :=
    ⟨by decide, by decide, fun type => by cases type <;> decide⟩
  intro signature hsignature
  simp only [lookalikes, List.map_cons, List.map_nil, List.mem_cons, List.not_mem_nil,
    or_false] at hsignature
  rcases hsignature with rfl | rfl | rfl
  · exact ⟨⟨1, .reference _⟩, by decide, hordinary⟩
  · exact ⟨⟨0, .primitive .int⟩, by decide, trivial⟩
  · exact ⟨⟨2, .reference _⟩, by decide, hordinary⟩

theorem className_tells_apart_lookalikes :
    IsOrdinary "[La/b];" ∧ IsOrdinary "[[La/b];" ∧ "[La/b];" ≠ "[[La/b];" ∧
      className descriptorLibrary "[La/b];" ≠ className descriptorLibrary "[[La/b];" ∧
      signatureOf "a.b][][]" = "[[La/b];" ∧
      (∀ signature stats, (Histogram.ofRecords lookalikes).get? signature = some stats →
        IsOrdinary signature) ∧
      (((Histogram.ofRecords lookalikes).report 2 (className descriptorLibrary)).rows.map
        Row.name).Nodup := by
  obtain ⟨hread, hapart, hrows⟩ := className_tells_apart supports_descriptorLibrary
  have hsingle : IsOrdinary "[La/b];" := isOrdinary_lookalikes _ (by decide)
  have hdouble : IsOrdinary "[[La/b];" := isOrdinary_lookalikes _ (by decide)
  have hname : className descriptorLibrary "[[La/b];" = "a.b][][]" := by decide
  have hrecorded : ∀ signature stats,
      (Histogram.ofRecords lookalikes).get? signature = some stats → IsOrdinary signature := by
    intro signature stats hstats
    apply isOrdinary_lookalikes
    by_contra hnot
    rw [(Histogram.get?_ofRecords_eq_none_iff _ _).mpr hnot] at hstats
    exact absurd hstats nofun
  exact ⟨hsingle, hdouble, by decide, hapart _ _ hsingle hdouble (by decide),
    hname ▸ hread _ hdouble, hrecorded, hrows _ 2 hrecorded⟩

end ExhaustionGuard.Heap
