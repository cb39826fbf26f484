import ExhaustionGuard.Proofs.Options.Pieces

/-! # Reading an option text

Options are read just if no piece is bad, and then the last piece with a key
decides what holds under it. Otherwise the leftmost bad piece decides the
error, and nothing behind it counts. Pieces with unknown keys are reported up
to there, one line for each.
-/

namespace ExhaustionGuard.Options

/-- The lines that report the unknown keys among pieces, in their order. -/
inductive Reports : List (List Char) → List LogLine → Prop
  | nil : Reports [] []
  | known {piece value : List Char} {key : Key} {rest : List (List Char)} {lines : List LogLine} :
      IsKeyValue piece key.name.toList value → Reports rest lines → Reports (piece :: rest) lines
  | unknown {piece name value : List Char} {rest : List (List Char)} {lines : List LogLine} :
      IsKeyValue piece name value → IsUnknown name → Reports rest lines →
        Reports (piece :: rest) (unknownKeyLine (String.ofList name) :: lines)

def HasKey (piece : List Char) (key : Key) : Prop :=
  ∃ value, IsKeyValue piece key.name.toList value

/-- What holds under a key after pieces: what the last piece with the key asks for, or what held
before. -/
def Settles (pieces : List (List Char)) (key : Key) (before after : Setting) : Prop :=
  (∃ earlier piece later, pieces = earlier ++ piece :: later ∧ HasKey piece key ∧
      Asks piece after ∧ ∀ other ∈ later, ¬ HasKey other key) ∨
    (∀ piece ∈ pieces, ¬ HasKey piece key) ∧ after = before

theorem Asks.hasKey_iff {piece : List Char} {setting : Setting} (hasks : Asks piece setting)
    (key : Key) : HasKey piece key ↔ keyOf? setting = some key := by
  cases hasks with
  | @given found value _ hpiece _ hmeans =>
      rw [hmeans.keyOf?, Option.some.injEq]
      refine ⟨?_, fun heq => heq ▸ ⟨value, hpiece⟩⟩
      exact fun ⟨_, hkey⟩ => name_toList_injective (hpiece.unique hkey).1
  | @standard found hpiece =>
      rw [keyOf?_setting, Option.some.injEq]
      refine ⟨?_, fun heq => heq ▸ ⟨[], hpiece⟩⟩
      exact fun ⟨_, hkey⟩ => name_toList_injective (hpiece.unique hkey).1
  | unknown hpiece hname =>
      refine ⟨?_, nofun⟩
      exact fun ⟨_, hkey⟩ => absurd (hpiece.unique hkey).1 (hname.2 key)

theorem Asks.reports {piece : List Char} {setting : Setting} (hasks : Asks piece setting)
    {rest : List (List Char)} {lines : List LogLine} (hrest : Reports rest lines) :
    Reports (piece :: rest) (reported setting ++ lines) := by
  have hknown : ∀ key, keyOf? setting = some key → reported setting = [] := by
    cases setting <;> first | exact fun _ _ => rfl | exact nofun
  cases hasks with
  | given hpiece _ hmeans =>
      rw [hknown _ hmeans.keyOf?]
      exact .known hpiece hrest
  | standard hpiece =>
      rw [hknown _ (keyOf?_setting _ _)]
      exact .known hpiece hrest
  | unknown hpiece hname => exact .unknown hpiece hname hrest

theorem settles_nil (key : Key) (setting : Setting) : Settles [] key setting setting :=
  .inr ⟨nofun, rfl⟩

/-- A piece in front settles its own key, unless a later one does. -/
theorem Settles.cons {piece : List Char} {setting after : Setting} {rest : List (List Char)}
    {options : Options} {key : Key} (hasks : Asks piece setting)
    (hrest : Settles rest key ((setting.apply options).setting key) after) :
    Settles (piece :: rest) key (options.setting key) after := by
  rcases hrest with ⟨earlier, last, later, rfl, hlast⟩ | ⟨hnone, rfl⟩
  · exact .inl ⟨piece :: earlier, last, later, rfl, hlast⟩
  · rw [setting_apply]
    split
    next hkey => exact .inl ⟨[], piece, rest, rfl, (hasks.hasKey_iff key).mpr hkey, hasks, hnone⟩
    next hkey =>
      exact .inr ⟨List.forall_mem_cons.mpr ⟨(hasks.hasKey_iff key).not.mpr hkey, hnone⟩, rfl⟩

theorem exists_asks_of_not_isBad {piece : List Char} (hgood : ¬ IsBad piece) :
    ∃ setting, Asks piece setting := by
  rcases readPiece_cases piece with ⟨setting, -, hasks⟩ | ⟨error, -, hblames⟩
  · exact ⟨setting, hasks⟩
  · exact absurd ⟨error, hblames⟩ hgood

theorem readPieces_cons {piece : List Char} {setting : Setting} (hasks : Asks piece setting)
    (options : Options) (rest : List (List Char)) :
    readPieces options (piece :: rest) =
      ((readPieces (setting.apply options) rest).1,
        reported setting ++ (readPieces (setting.apply options) rest).2) := by
  rw [readPieces, readPiece_eq_ok_iff.mpr hasks]

/-- Good pieces are all read, onto any options. -/
theorem readPieces_of_good {pieces : List (List Char)} (hgood : ∀ piece ∈ pieces, ¬ IsBad piece)
    (options : Options) :
    ∃ result lines, readPieces options pieces = (.ok result, lines) ∧ Reports pieces lines ∧
      ∀ key, Settles pieces key (options.setting key) (result.setting key) := by
  induction pieces generalizing options with
  | nil => exact ⟨options, [], rfl, .nil, fun key => settles_nil key _⟩
  | cons piece rest ih =>
      obtain ⟨hpiece, hrest⟩ := List.forall_mem_cons.mp hgood
      obtain ⟨setting, hasks⟩ := exists_asks_of_not_isBad hpiece
      obtain ⟨result, lines, hread, hreports, hsettles⟩ := ih hrest (setting.apply options)
      refine ⟨result, reported setting ++ lines, ?_, hasks.reports hreports, ?_⟩
      · rw [readPieces_cons hasks, hread]
      · exact fun key => (hsettles key).cons hasks

/-- Reading ends at a bad piece behind good ones. -/
theorem readPieces_of_bad {earlier : List (List Char)} {piece : List Char}
    (hgood : ∀ other ∈ earlier, ¬ IsBad other) (hbad : IsBad piece) (options : Options)
    (later : List (List Char)) :
    ∃ error lines, readPieces options (earlier ++ piece :: later) = (.error error, lines) ∧
      Blames piece error ∧ Reports earlier lines := by
  induction earlier generalizing options with
  | nil =>
      rcases readPiece_cases piece with ⟨setting, -, hasks⟩ | ⟨error, hread, hblames⟩
      · exact absurd hbad hasks.not_isBad
      · refine ⟨error, [], ?_, hblames, .nil⟩
        rw [List.nil_append, readPieces, hread]
  | cons first rest ih =>
      obtain ⟨hfirst, hrest⟩ := List.forall_mem_cons.mp hgood
      obtain ⟨setting, hasks⟩ := exists_asks_of_not_isBad hfirst
      obtain ⟨error, lines, hread, hblames, hreports⟩ := ih hrest (setting.apply options)
      refine ⟨error, reported setting ++ lines, ?_, hblames, hasks.reports hreports⟩
      rw [List.cons_append, readPieces_cons hasks, hread]

/-- Under the key of the time there is always at least a second. -/
theorem one_le_of_asks {piece : List Char} {n : Nat} (hasks : Asks piece (.seconds n)) : 1 ≤ n := by
  generalize hsetting : Setting.seconds n = setting at hasks
  cases hasks with
  | @given key _ _ _ _ hmeans =>
      have hkey := hmeans.keyOf?
      rw [← hsetting] at hkey
      obtain rfl : Key.time = key := Option.some.inj hkey
      obtain ⟨m, _, hm, _, hsame⟩ := hmeans
      obtain rfl := Setting.seconds.inj (hsetting.trans hsame)
      exact hm
  | @standard key _ =>
      have hkey := keyOf?_setting default key
      rw [← hsetting] at hkey
      obtain rfl : Key.time = key := Option.some.inj hkey
      exact (Setting.seconds.inj hsetting).ge
  | unknown => exact nomatch hsetting

theorem Settles.one_le {pieces : List (List Char)} {options : Options}
    (hsettles : Settles pieces .time (default.setting .time) (options.setting .time)) :
    1 ≤ options.seconds := by
  rcases hsettles with ⟨_, piece, _, _, _, hasks, _⟩ | ⟨_, heq⟩
  · exact one_le_of_asks hasks
  · exact (Setting.seconds.inj heq).ge

/-! ## The whole text -/

/-- How options and log lines follow from the pieces of a text. -/
structure Follows (pieces : List (List Char))
    (result : Except OptionError Options × List LogLine) : Prop where
  ok_iff : (∃ options, result.1 = .ok options) ↔ ∀ piece ∈ pieces, ¬ IsBad piece
  settled : ∀ options, result.1 = .ok options →
    1 ≤ options.seconds ∧ Reports pieces result.2 ∧
      ∀ key, Settles pieces key (default.setting key) (options.setting key)
  blamed : ∀ earlier piece later, pieces = earlier ++ piece :: later →
    (∀ other ∈ earlier, ¬ IsBad other) → IsBad piece →
      ∃ error, result.1 = .error error ∧ Blames piece error ∧ Reports earlier result.2

theorem exists_leftmost_isBad {pieces : List (List Char)}
    (hbad : ¬ ∀ piece ∈ pieces, ¬ IsBad piece) :
    ∃ earlier piece later, pieces = earlier ++ piece :: later ∧
      (∀ other ∈ earlier, ¬ IsBad other) ∧ IsBad piece := by
  induction pieces with
  | nil => exact absurd nofun hbad
  | cons first rest ih =>
      by_cases hfirst : IsBad first
      · exact ⟨[], first, rest, rfl, nofun, hfirst⟩
      · have hrest : ¬ ∀ piece ∈ rest, ¬ IsBad piece := fun hgood =>
          hbad (List.forall_mem_cons.mpr ⟨hfirst, hgood⟩)
        obtain ⟨earlier, piece, later, rfl, hgood, hpiece⟩ := ih hrest
        exact ⟨first :: earlier, piece, later, rfl,
          List.forall_mem_cons.mpr ⟨hfirst, hgood⟩, hpiece⟩

theorem good_of_readPieces_eq_ok {pieces : List (List Char)} {start result : Options}
    (hok : (readPieces start pieces).1 = .ok result) : ∀ piece ∈ pieces, ¬ IsBad piece := by
  by_contra hbad
  obtain ⟨earlier, piece, later, rfl, hgood, hpiece⟩ := exists_leftmost_isBad hbad
  obtain ⟨error, lines, hread, -⟩ := readPieces_of_bad hgood hpiece start later
  rw [hread] at hok
  exact nomatch hok

theorem follows_readPieces (pieces : List (List Char)) :
    Follows pieces (readPieces default pieces) where
  ok_iff := by
    refine ⟨fun ⟨_, hok⟩ => good_of_readPieces_eq_ok hok, fun hgood => ?_⟩
    obtain ⟨result, lines, hread, -⟩ := readPieces_of_good hgood default
    exact ⟨result, by rw [hread]⟩
  settled := by
    intro options hok
    obtain ⟨result, lines, hread, hreports, hsettles⟩ :=
      readPieces_of_good (good_of_readPieces_eq_ok hok) default
    rw [hread] at hok ⊢
    obtain rfl := Except.ok.inj hok
    exact ⟨(hsettles .time).one_le, hreports, hsettles⟩
  blamed := by
    rintro earlier piece later rfl hgood hpiece
    obtain ⟨error, lines, hread, hblames, hreports⟩ :=
      readPieces_of_bad hgood hpiece default later
    exact ⟨error, by rw [hread], hblames, by rwa [hread]⟩

/-- A text has one list of pieces, and is read as they say. -/
theorem read_follows (text : String) :
    ∃ found, (∀ other, IsPieces text other ↔ other = found) ∧ Follows found (read text) :=
  ⟨pieces text, fun _ => isPieces_iff.trans eq_comm, follows_readPieces (pieces text)⟩

/-- What stands behind the leftmost bad piece does not count, bad as it may be. -/
example : (read "count=2, count = ,colour=red,time=0,signal=42").1 =
    .error (.invalidValue "time" "0" .timeIsZero) := by
  decide +kernel

end ExhaustionGuard.Options
