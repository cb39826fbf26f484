import ExhaustionGuard.Proofs.Options.Meaning
import ExhaustionGuard.Proofs.Text.Parts

/-! # Pieces of an option text

A piece that has a key before its first equals sign asks for one setting. A
piece is bad if it has no such key, or if the value of a known key has no
meaning; what is bad about it is the error that it leads to.
-/

namespace ExhaustionGuard.Options

/-- The pieces of a text: the cores of its parts between commas, without the empty ones. -/
def IsPieces (text : String) (pieces : List (List Char)) : Prop :=
  ∃ parts cores : List (List Char),
    parts ≠ [] ∧ (∀ part ∈ parts, ',' ∉ part) ∧ [','].intercalate parts = text.toList ∧
      List.Forall₂ (fun part core => Text.IsCore core part) parts cores ∧
        pieces = cores.filter (· ≠ [])

theorem forall₂_isCore_iff {parts cores : List (List Char)} :
    List.Forall₂ (fun part core => Text.IsCore core part) parts cores ↔
      parts.map Text.trim = cores := by
  simp only [← Text.trim_eq_iff]
  rw [← List.forall₂_map_left_iff (f := Text.trim), List.forall₂_eq_eq_eq]

theorem isPieces_iff {text : String} {found : List (List Char)} :
    IsPieces text found ↔ pieces text = found := by
  have hfilter : ∀ cores : List (List Char),
      cores.filter (fun piece => !piece.isEmpty) = cores.filter (· ≠ []) := by
    refine fun cores => List.filter_congr fun core _ => ?_
    cases core <;> rfl
  unfold pieces
  rw [hfilter]
  constructor
  · rintro ⟨parts, cores, hne, hclean, hjoin, hcores, rfl⟩
    rw [Text.cut_eq_iff.mpr ⟨hne, hclean, hjoin⟩, forall₂_isCore_iff.mp hcores]
  · rintro rfl
    obtain ⟨hne, hclean, hjoin⟩ := Text.cut_eq_iff.mp (rfl : Text.cut ',' text.toList = _)
    exact ⟨_, _, hne, hclean, hjoin, forall₂_isCore_iff.mpr rfl, rfl⟩

/-! ## Key and value -/

/-- The cores of the two sides of the first equals sign. -/
def IsKeyValue (piece key value : List Char) : Prop :=
  ∃ before after, piece = before ++ '=' :: after ∧ '=' ∉ before ∧
    Text.IsCore key before ∧ Text.IsCore value after

/-- A text that is the name of no key. -/
def IsUnknown (name : List Char) : Prop := name ≠ [] ∧ ∀ key : Key, name ≠ key.name.toList

theorem isKeyValue_iff {piece key value : List Char} :
    IsKeyValue piece key value ↔
      (Text.cutOnce '=' piece).map (fun sides => (Text.trim sides.1, Text.trim sides.2)) =
        some (key, value) := by
  rw [Option.map_eq_some_iff]
  constructor
  · rintro ⟨before, after, hpiece, hfirst, hkey, hvalue⟩
    exact ⟨(before, after), Text.cutOnce_eq_some_iff.mpr ⟨hpiece, hfirst⟩,
      Prod.ext hkey.trim_eq hvalue.trim_eq⟩
  · rintro ⟨⟨before, after⟩, hcut, hsides⟩
    obtain ⟨hpiece, hfirst⟩ := Text.cutOnce_eq_some_iff.mp hcut
    obtain ⟨hkey, hvalue⟩ := Prod.mk.inj hsides
    exact ⟨before, after, hpiece, hfirst, Text.trim_eq_iff.mp hkey, Text.trim_eq_iff.mp hvalue⟩

theorem IsKeyValue.unique {piece key value otherKey otherValue : List Char}
    (hpiece : IsKeyValue piece key value) (hother : IsKeyValue piece otherKey otherValue) :
    key = otherKey ∧ value = otherValue := by
  have hboth := (isKeyValue_iff.mp hpiece).symm.trans (isKeyValue_iff.mp hother)
  exact Prod.mk.inj (Option.some.inj hboth)

theorem IsKeyValue.mem {piece key value : List Char} (hpiece : IsKeyValue piece key value) :
    '=' ∈ piece := by
  obtain ⟨before, after, rfl, -⟩ := hpiece
  exact List.mem_append_right before List.mem_cons_self

theorem name_toList_injective {key other : Key} (hname : key.name.toList = other.name.toList) :
    key = other := by
  revert hname
  cases key <;> cases other <;> decide

theorem name_toList_ne_nil (key : Key) : key.name.toList ≠ [] := by
  cases key <;> decide

/-! ## Good and bad pieces -/

/-- A piece asks for what the value of its key means, for the standard setting if the value is
empty, and for nothing if no such key is known. -/
inductive Asks (piece : List Char) : Setting → Prop
  | given {key : Key} {value : List Char} {setting : Setting} :
      IsKeyValue piece key.name.toList value → value ≠ [] → Means key value setting →
        Asks piece setting
  | standard {key : Key} : IsKeyValue piece key.name.toList [] → Asks piece (default.setting key)
  | unknown {name value : List Char} :
      IsKeyValue piece name value → IsUnknown name → Asks piece (.unknown (String.ofList name))

/-- What is bad about a piece. -/
inductive Blames (piece : List Char) : OptionError → Prop
  | noEquals : '=' ∉ piece → Blames piece (.malformed (String.ofList piece))
  | noKey {value : List Char} :
      IsKeyValue piece [] value → Blames piece (.malformed (String.ofList piece))
  | noMeaning {key : Key} {value : List Char} {fault : ValueFault} :
      IsKeyValue piece key.name.toList value → value ≠ [] →
        (∀ setting, ¬ Means key value setting) →
          Blames piece (.invalidValue key.name (String.ofList value) fault)

def IsBad (piece : List Char) : Prop := ∃ error, Blames piece error

theorem Asks.not_isBad {piece : List Char} {setting : Setting} (hasks : Asks piece setting) :
    ¬ IsBad piece := by
  rintro ⟨_, hequals | hkey | ⟨hpiece, hvalue, hmeaning⟩⟩
  · cases hasks with
    | given hpiece => exact hequals hpiece.mem
    | standard hpiece => exact hequals hpiece.mem
    | unknown hpiece => exact hequals hpiece.mem
  · cases hasks with
    | given hpiece => exact name_toList_ne_nil _ (hpiece.unique hkey).1
    | standard hpiece => exact name_toList_ne_nil _ (hpiece.unique hkey).1
    | unknown hpiece hname => exact hname.1 (hpiece.unique hkey).1
  · cases hasks with
    | given hasked _ hmeans =>
        obtain ⟨hkey, rfl⟩ := hasked.unique hpiece
        obtain rfl := name_toList_injective hkey
        exact hmeaning _ hmeans
    | standard hasked => exact hvalue (hasked.unique hpiece).2.symm
    | unknown hasked hname => exact hname.2 _ (hasked.unique hpiece).1

theorem blames_of_keyAndValue?_eq_none {piece : List Char} (hnone : keyAndValue? piece = none) :
    Blames piece (.malformed (String.ofList piece)) := by
  unfold keyAndValue? at hnone
  split at hnone
  next hcut => exact .noEquals (Text.cutOnce_eq_none_iff.mp hcut)
  next before after hcut =>
    have hempty : Text.trim before = [] := by
      by_contra hkey
      simp [List.isEmpty_iff, hkey] at hnone
    have hpiece : IsKeyValue piece [] (Text.trim after) := by
      rw [isKeyValue_iff, hcut, Option.map_some, hempty]
    exact .noKey hpiece

theorem isKeyValue_of_keyAndValue?_eq_some {piece key value : List Char}
    (hsome : keyAndValue? piece = some (key, value)) : IsKeyValue piece key value ∧ key ≠ [] := by
  unfold keyAndValue? at hsome
  split at hsome
  next => exact nomatch hsome
  next before after hcut =>
    simp only [List.isEmpty_iff, Option.ite_none_left_eq_some, Option.some.injEq,
      Prod.mk.injEq] at hsome
    obtain ⟨hkey, rfl, rfl⟩ := hsome
    refine ⟨isKeyValue_iff.mpr ?_, hkey⟩
    rw [hcut, Option.map_some]

/-- A piece is read as what it asks for, or its error is what is bad about it. -/
theorem readPiece_cases (piece : List Char) :
    (∃ setting, readPiece piece = .ok setting ∧ Asks piece setting) ∨
      ∃ error, readPiece piece = .error error ∧ Blames piece error := by
  unfold readPiece
  split
  next hnone => exact .inr ⟨_, rfl, blames_of_keyAndValue?_eq_none hnone⟩
  next name value hsome =>
    obtain ⟨hpiece, hname⟩ := isKeyValue_of_keyAndValue?_eq_some hsome
    by_cases hknown : ∃ key : Key, name = key.name.toList
    · obtain ⟨key, rfl⟩ := hknown
      simp only [String.ofList_toList, standardSetting_name]
      cases value with
      | nil => exact .inl ⟨_, rfl, .standard hpiece⟩
      | cons c rest =>
          cases hsetting : settingOf key.name (c :: rest) with
          | ok setting =>
              exact .inl ⟨setting, rfl, .given hpiece (List.cons_ne_nil c rest)
                (settingOf_name_eq_ok_iff.mp hsetting)⟩
          | error fault =>
              refine .inr ⟨_, rfl, .noMeaning hpiece (List.cons_ne_nil c rest) ?_⟩
              intro setting hmeans
              rw [settingOf_name_eq_ok_iff.mpr hmeans] at hsetting
              exact nomatch hsetting
    · have hunknown : IsUnknown name := ⟨hname, fun key heq => hknown ⟨key, heq⟩⟩
      have hne : ∀ key : Key, String.ofList name ≠ key.name := fun key heq =>
        hunknown.2 key (by rw [← heq, String.toList_ofList])
      refine .inl ⟨_, ?_, .unknown hpiece hunknown⟩
      simp only [standardSetting_of_ne_name hne, settingOf_of_ne_name hne, ite_self]

theorem Means.unique {key : Key} {value : List Char} {setting other : Setting}
    (hmeans : Means key value setting) (hother : Means key value other) : setting = other := by
  rw [← settingOf_name_eq_ok_iff] at hmeans hother
  exact Except.ok.inj (hmeans.symm.trans hother)

theorem Asks.unique {piece : List Char} {setting other : Setting} (hasks : Asks piece setting)
    (hother : Asks piece other) : setting = other := by
  cases hasks with
  | given hpiece hvalue hmeans =>
      cases hother with
      | given hsame _ hsameMeans =>
          obtain ⟨hkey, rfl⟩ := hpiece.unique hsame
          obtain rfl := name_toList_injective hkey
          exact hmeans.unique hsameMeans
      | standard hsame => exact absurd (hpiece.unique hsame).2 hvalue
      | unknown hsame hname => exact absurd (hsame.unique hpiece).1 (hname.2 _)
  | standard hpiece =>
      cases hother with
      | given hsame hvalue => exact absurd (hsame.unique hpiece).2 hvalue
      | standard hsame => rw [name_toList_injective (hpiece.unique hsame).1]
      | unknown hsame hname => exact absurd (hsame.unique hpiece).1 (hname.2 _)
  | unknown hpiece hname =>
      cases hother with
      | given hsame => exact absurd (hpiece.unique hsame).1 (hname.2 _)
      | standard hsame => exact absurd (hpiece.unique hsame).1 (hname.2 _)
      | unknown hsame => rw [(hpiece.unique hsame).1]

theorem readPiece_eq_ok_iff {piece : List Char} {setting : Setting} :
    readPiece piece = .ok setting ↔ Asks piece setting := by
  rcases readPiece_cases piece with ⟨found, hread, hasks⟩ | ⟨error, hread, hblames⟩
  · rw [hread, Except.ok.injEq]
    exact ⟨fun heq => heq ▸ hasks, hasks.unique⟩
  · rw [hread]
    exact ⟨nofun, fun hasks => absurd ⟨error, hblames⟩ hasks.not_isBad⟩

end ExhaustionGuard.Options
