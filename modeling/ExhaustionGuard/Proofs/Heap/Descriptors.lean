import ExhaustionGuard.Heap.ClassName
import ExhaustionGuard.Proofs.Text.Patterns
import Mathlib.Data.List.TakeWhile
import Mathlib.Data.String.Basic

/-! # Field descriptors

A field descriptor is the code of a primitive type, or the text of a class
between `L` and a semicolon, with an opening bracket before it for each
dimension of an array. The pattern for class signatures matches exactly the
descriptors, each as a whole, and catches their parts. So with any library for
regular expressions that goes by the pattern, exactly the descriptors are shown
as Java types; and a signature is a descriptor in at most one way.
-/

namespace ExhaustionGuard.Heap

/-- The primitive types of Java. -/
inductive Primitive where
  | boolean | byte | char | double | float | int | long | short
  deriving DecidableEq, Repr

namespace Primitive

/-- The letter of a primitive type in a descriptor. -/
def code : Primitive → Char
  | boolean => 'Z' | byte => 'B' | char => 'C' | double => 'D' | float => 'F' | int => 'I'
  | long => 'J' | short => 'S'

def keyword : Primitive → String
  | boolean => "boolean" | byte => "byte" | char => "char" | double => "double"
  | float => "float" | int => "int" | long => "long" | short => "short"

theorem code_injective : Function.Injective code := by
  intro left right hcode
  cases left <;> cases right <;> first | rfl | exact absurd hcode (by decide)

theorem primitive?_code (type : Primitive) :
    primitive? (String.ofList [type.code]) = some type.keyword := by
  cases type <;> rfl

end Primitive

theorem mem_primitiveCodes {c : Char} : c ∈ primitiveCodes ↔ ∃ type : Primitive, type.code = c := by
  constructor
  · intro hmem
    have hcodes : primitiveCodes = [Primitive.byte, .char, .double, .float, .int, .long, .short,
      .boolean].map Primitive.code := by decide
    rw [hcodes] at hmem
    obtain ⟨type, -, hcode⟩ := List.mem_map.mp hmem
    exact ⟨type, hcode⟩
  · rintro ⟨type, rfl⟩
    cases type <;> decide

/-! ## Elements -/

/-- The text of a class as it stands in a descriptor. -/
@[ext]
structure ClassText where
  text : List Char
  ne_nil : text ≠ []
  semicolon_notMem : ';' ∉ text

theorem classText?_eq_some_iff {text cls : List Char} :
    classText? text = some cls ↔ text = 'L' :: (cls ++ [';']) ∧ cls ≠ [] ∧ ';' ∉ cls := by
  constructor
  · intro hcls
    unfold classText? at hcls
    split at hcls
    case h_2 => exact absurd hcls nofun
    case h_1 rest =>
      simp only [Option.ite_none_right_eq_some, Option.some.injEq, Bool.and_eq_true,
        Bool.not_eq_true', List.isEmpty_eq_false_iff, beq_iff_eq] at hcls
      obtain ⟨⟨hsome, hend⟩, rfl⟩ := hcls
      refine ⟨?_, hsome, fun hmem => ?_⟩
      · rw [← hend, List.takeWhile_append_dropWhile]
      · simpa using List.mem_takeWhile_imp hmem
  · rintro ⟨rfl, hsome, hclean⟩
    have hpass : ∀ c ∈ cls, (c != ';') = true := by
      intro c hc
      exact bne_iff_ne.mpr fun heq => hclean (heq ▸ hc)
    simp [classText?, List.takeWhile_append_of_pos hpass, List.dropWhile_append_of_pos hpass,
      hsome]

/-- What an array descriptor has behind its brackets. -/
inductive Element where
  | primitive (type : Primitive)
  | reference (cls : ClassText)

namespace Element

def chars : Element → List Char
  | primitive type => [type.code]
  | reference cls => 'L' :: (cls.text ++ [';'])

/-- What the pattern catches of an element, and the number of the parentheses that catch it. -/
def caught : Element → Nat × List Char
  | primitive type => (2, [type.code])
  | reference cls => (3, cls.text)

def name : Element → List Char
  | primitive type => type.keyword.toList
  | reference cls => cls.text.map dotted

theorem chars_injective : Function.Injective chars := by
  intro left right hchars
  -- no primitive type has the code `L`, and the text of a class is followed by one character
  cases left with
  | primitive type =>
      cases right with
      | primitive other => rw [Primitive.code_injective (List.singleton_inj.mp hchars)]
      | reference cls => simp [chars] at hchars
  | reference cls =>
      cases right with
      | primitive other => simp [chars] at hchars
      | reference other =>
          have htext : cls.text = other.text := by simpa [chars] using hchars
          rw [ClassText.ext htext]

theorem head?_chars_ne (element : Element) : element.chars.head? ≠ some '[' := by
  cases element with
  | primitive type => cases type <;> decide
  | reference cls => simp [chars]

end Element

theorem catchElement?_eq_some_iff {text : List Char} {caught : Nat × List Char} :
    catchElement? text = some caught ↔
      ∃ element : Element, element.chars = text ∧ element.caught = caught := by
  constructor
  · intro hcaught
    unfold catchElement? at hcaught
    split at hcaught
    next code =>
      rw [Option.ite_none_right_eq_some, List.contains_iff_mem] at hcaught
      obtain ⟨hcode, hsome⟩ := hcaught
      obtain ⟨type, rfl⟩ := mem_primitiveCodes.mp hcode
      exact ⟨.primitive type, rfl, Option.some.inj hsome⟩
    next =>
      obtain ⟨cls, hcls, rfl⟩ := Option.map_eq_some_iff.mp hcaught
      obtain ⟨rfl, hsome, hclean⟩ := classText?_eq_some_iff.mp hcls
      exact ⟨.reference ⟨cls, hsome, hclean⟩, rfl, rfl⟩
  · rintro ⟨element, rfl, rfl⟩
    cases element with
    | primitive type =>
        have hcode : primitiveCodes.contains type.code = true :=
          List.contains_iff_mem.mpr (mem_primitiveCodes.mpr ⟨type, rfl⟩)
        exact if_pos hcode
    | reference cls =>
        have hcls : classText? (Element.reference cls).chars = some cls.text :=
          classText?_eq_some_iff.mpr ⟨rfl, cls.ne_nil, cls.semicolon_notMem⟩
        unfold catchElement?
        split
        next code hcode => simp [Element.chars] at hcode
        next => rw [hcls]; rfl

/-! ## Arrays -/

/-- The type of an array of so many dimensions; of no dimension, the element type itself. -/
structure Descriptor where
  dimensions : Nat
  element : Element

namespace Descriptor

def chars (descriptor : Descriptor) : List Char :=
  List.replicate descriptor.dimensions '[' ++ descriptor.element.chars

/-- The descriptor as a class signature. -/
def signature (descriptor : Descriptor) : String :=
  String.ofList descriptor.chars

/-- What the pattern catches of a descriptor. -/
def caught (descriptor : Descriptor) : List (Nat × List Char) :=
  [descriptor.element.caught, (1, List.replicate descriptor.dimensions '[')]

/-- The Java name of the type, with a pair of brackets for each dimension. -/
def name (descriptor : Descriptor) : List Char :=
  descriptor.element.name ++ (List.replicate descriptor.dimensions ['[', ']']).flatten

variable (descriptor : Descriptor)

theorem takeWhile_chars :
    descriptor.chars.takeWhile (· == '[') = List.replicate descriptor.dimensions '[' := by
  have hstop : descriptor.element.chars.takeWhile (· == '[') = [] := by
    cases hchars : descriptor.element.chars with
    | nil => rfl
    | cons c rest =>
        have hne := descriptor.element.head?_chars_ne
        rw [hchars, List.head?_cons] at hne
        exact List.takeWhile_cons_of_neg (by simpa using hne)
  rw [chars, List.takeWhile_append_of_pos (by simp), hstop, List.append_nil]

theorem drop_chars :
    descriptor.chars.drop descriptor.dimensions = descriptor.element.chars :=
  List.drop_left' List.length_replicate

theorem chars_injective : Function.Injective chars := by
  intro left right hchars
  have hbrackets := left.takeWhile_chars
  rw [hchars, right.takeWhile_chars] at hbrackets
  have hdimensions : left.dimensions = right.dimensions := by
    simpa using (congrArg List.length hbrackets).symm
  have helement : left.element.chars = right.element.chars := by
    rw [← left.drop_chars, ← right.drop_chars, hchars, hdimensions]
  cases left
  cases right
  obtain rfl := Element.chars_injective helement
  obtain rfl := hdimensions
  rfl

theorem signature_injective : Function.Injective signature :=
  fun _ _ hsame => chars_injective (String.ofList_injective hsame)

end Descriptor

/-! ## Matches of the pattern -/

open Text.Regex

/-- The pattern of elements matches them alone, and catches them. -/
theorem matches_elementPattern_iff {before part behind : List Char}
    {caught : List (Nat × List Char)} :
    elementPattern.Matches before part behind caught ↔
      ∃ element : Element, element.chars = part ∧ caught = [element.caught] := by
  rw [elementPattern, matches_alt_iff]
  constructor
  · rintro (hcode | hcls)
    · obtain ⟨inner, rfl, hinner⟩ := matches_capture_iff.mp hcode
      obtain ⟨c, hc, rfl, rfl⟩ := matches_oneOf_iff.mp hinner
      obtain ⟨type, rfl⟩ := mem_primitiveCodes.mp hc
      exact ⟨.primitive type, rfl, rfl⟩
    · obtain ⟨_, _, _, _, rfl, rfl, hletter, hrest⟩ := matches_seq_iff.mp hcls
      obtain ⟨rfl, rfl⟩ := matches_char_iff.mp hletter
      obtain ⟨_, _, _, _, rfl, rfl, htext, hend⟩ := matches_seq_iff.mp hrest
      obtain ⟨rfl, rfl⟩ := matches_char_iff.mp hend
      obtain ⟨inner, rfl, hinner⟩ := matches_capture_iff.mp htext
      obtain ⟨hsome, hclean, rfl⟩ := (matches_plus_iff (matchesEach_noneOf _)).mp hinner
      have hsemicolon : ';' ∉ _ := fun hmem => hclean ';' hmem (List.mem_singleton.mpr rfl)
      exact ⟨.reference ⟨_, hsome, hsemicolon⟩, rfl, rfl⟩
  · rintro ⟨element, rfl, rfl⟩
    cases element with
    | primitive type =>
        have hcode : type.code ∈ primitiveCodes := mem_primitiveCodes.mpr ⟨type, rfl⟩
        exact .inl (.capture (.oneOf hcode))
    | reference cls =>
        have hclean : ∀ c ∈ cls.text, c ∉ [';'] := by
          intro c hc hmem
          exact cls.semicolon_notMem (List.mem_singleton.mp hmem ▸ hc)
        have htext :
            (plus (noneOf [';'])).Matches (before ++ ['L']) cls.text ([';'] ++ behind) [] :=
          (matches_plus_iff (matchesEach_noneOf _)).mpr ⟨cls.ne_nil, hclean, rfl⟩
        exact .inr (.seq .char (.seq (.capture htext) .char))

/-- The pattern matches the descriptors, as whole texts, and catches their brackets and elements. -/
theorem matches_descriptorPattern_iff {before part behind : List Char}
    {caught : List (Nat × List Char)} :
    descriptorPattern.Matches before part behind caught ↔
      before = [] ∧ behind = [] ∧
        ∃ descriptor : Descriptor, descriptor.chars = part ∧ caught = descriptor.caught := by
  constructor
  · intro hmatches
    obtain ⟨_, _, _, _, rfl, rfl, hstart, hrest⟩ := matches_seq_iff.mp hmatches
    obtain ⟨rfl, rfl, rfl⟩ := matches_start_iff.mp hstart
    obtain ⟨brackets, _, _, _, rfl, rfl, hbrackets, htype⟩ := matches_seq_iff.mp hrest
    obtain ⟨inner, rfl, hinner⟩ := matches_capture_iff.mp hbrackets
    obtain ⟨hopening, rfl⟩ := (matches_star_iff (matchesEach_char _)).mp hinner
    obtain ⟨_, _, _, _, rfl, rfl, hgroup, hstop⟩ := matches_seq_iff.mp htype
    obtain ⟨rfl, rfl, rfl⟩ := matches_stop_iff.mp hstop
    obtain ⟨element, rfl, rfl⟩ := matches_elementPattern_iff.mp (matches_group_iff.mp hgroup)
    have hcount : brackets = List.replicate brackets.length '[' := List.eq_replicate_of_mem hopening
    refine ⟨rfl, rfl, ⟨brackets.length, element⟩, ?_, ?_⟩
    · rw [Descriptor.chars, ← hcount, List.append_nil, List.nil_append]
    · rw [Descriptor.caught, ← hcount]
      rfl
  · rintro ⟨rfl, rfl, descriptor, rfl, rfl⟩
    have hbrackets : (star (char '[')).Matches []
        (List.replicate descriptor.dimensions '[') (descriptor.element.chars ++ [] ++ []) [] :=
      (matches_star_iff (matchesEach_char _)).mpr
        ⟨fun c hc => List.eq_of_mem_replicate hc, rfl⟩
    have hwhole : descriptorPattern.Matches []
        ([] ++ (List.replicate descriptor.dimensions '[' ++ (descriptor.element.chars ++ []))) []
        ([] ++ [descriptor.element.caught] ++ [(1, List.replicate descriptor.dimensions '[')] ++
          []) :=
      .seq .start (.seq (.capture hbrackets)
        (.seq (.group (matches_elementPattern_iff.mpr ⟨descriptor.element, rfl, rfl⟩)) .stop))
    rw [List.append_nil, List.append_nil] at hwhole
    exact hwhole

/-! ## Searches for the pattern -/

section Search

variable {search : Text.Search} (goes : search.GoesBy descriptorPattern)

include goes

/-- A search that goes by the pattern finds a descriptor, and tells what is caught of it. -/
theorem search_signature (descriptor : Descriptor) :
    ∃ captures, search descriptor.signature = some captures ∧ ∀ number, 0 < number →
      captures number = (descriptor.caught.lookup number).map String.ofList := by
  cases hsearch : search descriptor.signature with
  | none =>
      have hmatches : descriptorPattern.Matches [] descriptor.chars [] descriptor.caught :=
        matches_descriptorPattern_iff.mpr ⟨rfl, rfl, descriptor, rfl, rfl⟩
      refine absurd hmatches (goes.missed hsearch _ _ _ _ ?_)
      rw [List.nil_append, List.append_nil, Descriptor.signature, String.toList_ofList]
  | some captures =>
      obtain ⟨_, _, _, _, htext, hmatches, hcaptures⟩ := goes.found hsearch
      obtain ⟨rfl, rfl, other, rfl, rfl⟩ := matches_descriptorPattern_iff.mp hmatches
      rw [List.nil_append, List.append_nil, Descriptor.signature, String.toList_ofList] at htext
      obtain rfl := Descriptor.chars_injective htext
      exact ⟨captures, rfl, hcaptures⟩

/-- It finds nothing else. -/
theorem search_of_not_descriptor {signature : String}
    (hnone : ∀ descriptor : Descriptor, descriptor.signature ≠ signature) :
    search signature = none := by
  by_contra hsome
  obtain ⟨captures, hsearch⟩ := Option.ne_none_iff_exists'.mp hsome
  obtain ⟨_, _, _, _, htext, hmatches, -⟩ := goes.found hsearch
  obtain ⟨rfl, rfl, descriptor, rfl, -⟩ := matches_descriptorPattern_iff.mp hmatches
  apply hnone descriptor
  rw [List.nil_append, List.append_nil] at htext
  rw [Descriptor.signature, htext, String.ofList_toList]

end Search

theorem utf8ByteSize_brackets (count : Nat) :
    (String.ofList (List.replicate count '[')).utf8ByteSize = count := by
  rw [String.utf8ByteSize_ofList]
  induction count with
  | zero => rfl
  | succ count ih => rw [List.replicate_succ, String.utf8Len_cons, ih]; rfl

theorem className_signature {library : Text.RegexLibrary}
    (supports : library.Supports descriptorPattern) (descriptor : Descriptor) :
    className library descriptor.signature = String.ofList descriptor.name := by
  obtain ⟨search, hlibrary, goes⟩ := supports
  obtain ⟨captures, hsearch, hcaptures⟩ := search_signature goes descriptor
  have helement : elementName? captures = some (String.ofList descriptor.element.name) := by
    rw [elementName?, hcaptures 2 (by decide), hcaptures 3 (by decide), Descriptor.caught]
    cases descriptor.element with
    | primitive type =>
        exact type.primitive?_code.trans (congrArg some String.ofList_toList.symm)
    | reference cls =>
        change some (String.ofList ((String.ofList cls.text).toList.map dotted)) = _
        rw [String.toList_ofList]
        rfl
  have hdimensions : dimensionsOf captures = descriptor.dimensions := by
    have hone : captures 1 = some (String.ofList (List.replicate descriptor.dimensions '[')) := by
      rw [hcaptures 1 (by decide), Descriptor.caught]
      cases descriptor.element <;> rfl
    rw [dimensionsOf, hone]
    exact utf8ByteSize_brackets _
  rw [text_descriptorPattern] at hlibrary
  rw [className, hlibrary, Option.bind_some, hsearch]
  simp only [helement, hdimensions]
  apply String.toList_injective
  simp [Descriptor.name, String.toList_join, List.flatMap_replicate]

/-- A text that is no descriptor is shown as it is. -/
theorem className_of_not_descriptor {library : Text.RegexLibrary}
    (supports : library.Supports descriptorPattern) {signature : String}
    (hnone : ∀ descriptor : Descriptor, descriptor.signature ≠ signature) :
    className library signature = signature := by
  obtain ⟨search, hlibrary, goes⟩ := supports
  rw [text_descriptorPattern] at hlibrary
  rw [className, hlibrary, Option.bind_some, search_of_not_descriptor goes hnone]

/-- With a library that goes by the pattern, a signature that is a descriptor is so in one way only,
and is shown as the type that it describes. Any other signature is shown as it is. -/
theorem className_of_descriptors {library : Text.RegexLibrary}
    (supports : library.Supports descriptorPattern) (signature : String) :
    (∀ descriptor : Descriptor, descriptor.signature = signature →
      className library signature = String.ofList descriptor.name ∧
        ∀ other : Descriptor, other.signature = signature → other = descriptor) ∧
    ((∀ descriptor : Descriptor, descriptor.signature ≠ signature) →
      className library signature = signature) := by
  constructor
  · rintro descriptor rfl
    refine ⟨className_signature supports descriptor, fun other hother => ?_⟩
    exact Descriptor.signature_injective hother
  · exact className_of_not_descriptor supports

/-! ## The library for the pattern -/

/-- The search for a descriptor finds one just if the text is one. -/
theorem searchDescriptor_eq_some_iff {signature : String} {captures : Text.Captures} :
    searchDescriptor signature = some captures ↔
      ∃ descriptor : Descriptor, descriptor.signature = signature ∧
        captures = fun number => (descriptor.caught.lookup number).map String.ofList := by
  rw [searchDescriptor, Option.map_eq_some_iff]
  constructor
  · rintro ⟨caught, hcaught, rfl⟩
    obtain ⟨element, hchars, rfl⟩ := catchElement?_eq_some_iff.mp hcaught
    have hbrackets : signature.toList.takeWhile (· == '[') =
        List.replicate (signature.toList.takeWhile (· == '[')).length '[' :=
      List.eq_replicate_of_mem fun c hc => by simpa using List.mem_takeWhile_imp hc
    have hsplit : signature.toList.takeWhile (· == '[') ++
        signature.toList.drop (signature.toList.takeWhile (· == '[')).length = signature.toList :=
      List.prefix_iff_eq_append.mp (List.takeWhile_prefix _)
    refine ⟨⟨(signature.toList.takeWhile (· == '[')).length, element⟩, ?_, ?_⟩
    · rw [Descriptor.signature, Descriptor.chars, hchars, ← hbrackets, hsplit, String.ofList_toList]
    · rw [Descriptor.caught, ← hbrackets]
  · rintro ⟨descriptor, rfl, rfl⟩
    have hcaught := catchElement?_eq_some_iff.mpr ⟨descriptor.element, rfl, rfl⟩
    simp [Descriptor.signature, descriptor.takeWhile_chars, descriptor.drop_chars, hcaught,
      Descriptor.caught]

theorem goesBy_searchDescriptor : Text.Search.GoesBy searchDescriptor descriptorPattern where
  found := by
    intro signature captures hsearch
    obtain ⟨descriptor, rfl, rfl⟩ := searchDescriptor_eq_some_iff.mp hsearch
    refine ⟨[], descriptor.chars, [], descriptor.caught, ?_,
      matches_descriptorPattern_iff.mpr ⟨rfl, rfl, descriptor, rfl, rfl⟩, fun _ _ => rfl⟩
    rw [List.nil_append, List.append_nil, Descriptor.signature, String.toList_ofList]
  missed := by
    intro signature hsearch before part behind caught htext hmatches
    obtain ⟨rfl, rfl, descriptor, rfl, -⟩ := matches_descriptorPattern_iff.mp hmatches
    rw [List.nil_append, List.append_nil] at htext
    have hfound := searchDescriptor_eq_some_iff.mpr ⟨descriptor, rfl, rfl⟩
    rw [Descriptor.signature, htext, String.ofList_toList, hsearch] at hfound
    cases hfound

theorem supports_descriptorLibrary : descriptorLibrary.Supports descriptorPattern :=
  ⟨searchDescriptor, if_pos text_descriptorPattern, goesBy_searchDescriptor⟩

/-- A table of tables of a class whose text has more than letters in it. -/
def tableOfTables : Descriptor where
  dimensions := 2
  element := .reference ⟨"a/é[\n]".toList, by decide, by decide⟩

/-- With a line break after its semicolon a descriptor is none. -/
theorem className_of_descriptors_table :
    tableOfTables.signature = "[[La/é[\n];" ∧
      className descriptorLibrary "[[La/é[\n];" = "a.é[\n][][]" ∧
      (∀ descriptor : Descriptor, descriptor.signature ≠ "[[La/é[\n];\n") ∧
      className descriptorLibrary "[[La/é[\n];\n" = "[[La/é[\n];\n" := by
  have htable : tableOfTables.signature = "[[La/é[\n];" := by decide
  have hunfound : searchDescriptor "[[La/é[\n];\n" = none := by decide
  have hnone : ∀ descriptor : Descriptor, descriptor.signature ≠ "[[La/é[\n];\n" := by
    intro descriptor hsame
    rw [searchDescriptor_eq_some_iff.mpr ⟨descriptor, hsame, rfl⟩] at hunfound
    cases hunfound
  obtain ⟨hname, -⟩ :=
    (className_of_descriptors supports_descriptorLibrary "[[La/é[\n];").1 tableOfTables htable
  exact ⟨htable, hname.trans (by decide), hnone,
    (className_of_descriptors supports_descriptorLibrary _).2 hnone⟩

end ExhaustionGuard.Heap
