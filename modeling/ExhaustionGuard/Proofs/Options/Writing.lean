import ExhaustionGuard.Proofs.Options.Reading

/-! # Writing options

Options that a text can express are read back exactly, however they are
written: in any order of the keys, with blanks around keys and values, leading
zeros, names of signals in any case, and other parts in between.
-/

namespace ExhaustionGuard.Options

/-- Options within their bounds whose path, if there is one, survives cutting and trimming. -/
structure Writable (options : Options) : Prop where
  one_le_seconds : 1 ≤ options.seconds
  seconds_le : options.seconds ≤ wordMax
  count_le : options.count ≤ wordMax
  histogramEntries_le : options.histogramEntries ≤ wordMax
  path_ne_nil : ∀ path ∈ options.heapDumpPath, path.toList ≠ []
  path_no_comma : ∀ path ∈ options.heapDumpPath, ',' ∉ path.toList
  path_isBare : ∀ path ∈ options.heapDumpPath, Text.IsBare path.toList

/-- A number in decimal, with any number of leading zeros. -/
def IsDecimal (value : List Char) (n : Nat) : Prop :=
  ∃ zeros, value = List.replicate zeros '0' ++ Nat.toDigits 10 n

/-- A name of a signal in letters of any case, with or without its first three letters. -/
def IsSignalName (value : List Char) (signal : Signal) : Prop :=
  value.map Char.toUpper = signal.name.toList ∨
    ['S', 'I', 'G'] ++ value.map Char.toUpper = signal.name.toList

/-- How the setting of options under a key may be spelled. -/
def Spells (options : Options) : Key → List Char → Prop
  | .time, value => IsDecimal value options.seconds
  | .count, value => IsDecimal value options.count
  | .printHeapHistogram, value => IsFlag value options.heapHistogram
  | .heapHistogramMaxEntries, value => IsDecimal value options.histogramEntries
  | .printMemoryUsage, value => IsFlag value options.memoryUsage
  | .printThreadDump, value => IsFlag value options.threadDump
  | .heapDumpPath, value => value = options.heapDumpPath.elim [] String.toList
  | .signal, value => IsDecimal value options.signal.number ∨ IsSignalName value options.signal

/-- A part of a text that gives the setting under a key, or one that is blank or has an unknown
key. -/
inductive Writes (options : Options) : Option Key → List Char → Prop
  | setting {key : Key} {before value after : List Char} :
      Text.IsPadded key.name.toList before → Spells options key value →
        Text.IsPadded value after → Writes options (some key) (before ++ '=' :: after)
  | blank {part : List Char} : Text.IsBlank part → Writes options none part
  | unknown {before name after : List Char} :
      Text.IsCore name before → IsUnknown name → '=' ∉ before → ',' ∉ before → ',' ∉ after →
        Writes options none (before ++ '=' :: after)

/-- A text with one part for each key, in any order, and others in between. -/
def IsWritten (options : Options) (text : String) : Prop :=
  ∃ (labels : List (Option Key)) (parts : List (List Char)),
    List.Forall₂ (Writes options) labels parts ∧ (labels.filterMap id).Perm Key.all ∧
      text.toList = [','].intercalate parts

/-! ## Characters of keys and values -/

/-- Characters at which a text is neither cut nor trimmed. -/
def IsPlain (text : List Char) : Prop := ∀ c ∈ text, Text.isBlank c = false ∧ c ≠ ',' ∧ c ≠ '='

instance (text : List Char) : Decidable (IsPlain text) :=
  List.decidableBAll (fun c => Text.isBlank c = false ∧ c ≠ ',' ∧ c ≠ '=') text

theorem IsPlain.isBare {text : List Char} (hplain : IsPlain text) : Text.IsBare text :=
  Text.isBare_of_not_isBlank fun c hc => (hplain c hc).1

theorem IsPlain.no_comma {text : List Char} (hplain : IsPlain text) : ',' ∉ text :=
  fun hc => (hplain ',' hc).2.1 rfl

theorem IsPlain.no_equals {text : List Char} (hplain : IsPlain text) : '=' ∉ text :=
  fun hc => (hplain '=' hc).2.2 rfl

theorem isBlank_of_isDigit {c : Char} (hc : c.isDigit = true) : Text.isBlank c = false := by
  have hdigit : 48 ≤ c.toNat ∧ c.toNat ≤ 57 := by
    simpa [Char.isDigit, UInt32.le_iff_toNat_le] using hc
  by_contra hblank
  simp only [Bool.not_eq_false, Text.isBlank, Bool.or_eq_true, Bool.and_eq_true,
    decide_eq_true_eq, beq_iff_eq] at hblank
  omega

theorem not_isLower_of_isBlank {c : Char} (hc : Text.isBlank c = true) : ¬ c.isLower = true := by
  simp only [Text.isBlank, Bool.or_eq_true, Bool.and_eq_true, decide_eq_true_eq,
    beq_iff_eq] at hc
  intro hlower
  have hlower : 97 ≤ c.toNat ∧ c.toNat ≤ 122 := by
    simpa [Char.isLower, UInt32.le_iff_toNat_le] using hlower
  omega

theorem isPlain_of_isDigit {text : List Char} (hdigit : ∀ c ∈ text, c.isDigit = true) :
    IsPlain text := by
  intro c hc
  refine ⟨isBlank_of_isDigit (hdigit c hc), ?_, ?_⟩
  · rintro rfl
    exact absurd (hdigit ',' hc) (by decide)
  · rintro rfl
    exact absurd (hdigit '=' hc) (by decide)

theorem isPlain_of_map_toUpper {text : List Char} (hplain : IsPlain (text.map Char.toUpper)) :
    IsPlain text := by
  intro c hc
  have hupper := hplain c.toUpper (List.mem_map_of_mem hc)
  refine ⟨?_, ?_, ?_⟩
  · by_contra hblank
    rw [Bool.not_eq_false] at hblank
    rw [Char.toUpper_eq_of_not_isLower (not_isLower_of_isBlank hblank), hblank] at hupper
    exact nomatch hupper.1
  · rintro rfl
    exact hupper.2.1 rfl
  · rintro rfl
    exact hupper.2.2 rfl

theorem name_isPlain (key : Key) : IsPlain key.name.toList := by
  cases key <;> decide

theorem signal_name_isPlain (signal : Signal) : IsPlain signal.name.toList := by
  cases signal <;> decide

/-! ## Spellings -/

theorem IsDecimal.isNumeral {value : List Char} {n : Nat} (hvalue : IsDecimal value n) :
    Text.IsNumeral value n := by
  obtain ⟨zeros, rfl⟩ := hvalue
  exact Text.isNumeral_toDigits zeros n

theorem IsDecimal.isNumber {value : List Char} {n : Nat} (hvalue : IsDecimal value n) :
    Text.IsNumber value n :=
  ⟨value, hvalue.isNumeral, .inl rfl⟩

theorem IsDecimal.isPlain {value : List Char} {n : Nat} (hvalue : IsDecimal value n) :
    IsPlain value :=
  isPlain_of_isDigit hvalue.isNumeral.isDigit

theorem IsFlag.isPlain {value : List Char} {flag : Bool} (hvalue : IsFlag value flag) :
    IsPlain value := by
  subst hvalue
  cases flag <;> decide

theorem IsFlag.ne_nil {value : List Char} {flag : Bool} (hvalue : IsFlag value flag) :
    value ≠ [] := by
  subst hvalue
  cases flag <;> exact List.cons_ne_nil _ _

theorem IsSignalName.isPlain {value : List Char} {signal : Signal}
    (hvalue : IsSignalName value signal) : IsPlain value := by
  have hname := signal_name_isPlain signal
  rcases hvalue with hvalue | hvalue
  · exact isPlain_of_map_toUpper (hvalue ▸ hname)
  · rw [← hvalue] at hname
    exact isPlain_of_map_toUpper fun c hc => hname c (List.mem_append_right _ hc)

theorem IsSignalName.ne_nil {value : List Char} {signal : Signal}
    (hvalue : IsSignalName value signal) : value ≠ [] := by
  rintro rfl
  obtain ⟨c, hc, -⟩ := not_isUpper_head_of_name hvalue
  exact nomatch hc

/-- A spelling survives cutting and trimming. -/
theorem Spells.isBare {options : Options} (hoptions : Writable options) {key : Key}
    {value : List Char} (hvalue : Spells options key value) :
    Text.IsBare value ∧ ',' ∉ value := by
  have hplain : ∀ {text : List Char}, IsPlain text → Text.IsBare text ∧ ',' ∉ text :=
    fun hplain => ⟨hplain.isBare, hplain.no_comma⟩
  cases key with
  | time => exact hplain (IsDecimal.isPlain hvalue)
  | count => exact hplain (IsDecimal.isPlain hvalue)
  | printHeapHistogram => exact hplain (IsFlag.isPlain hvalue)
  | heapHistogramMaxEntries => exact hplain (IsDecimal.isPlain hvalue)
  | printMemoryUsage => exact hplain (IsFlag.isPlain hvalue)
  | printThreadDump => exact hplain (IsFlag.isPlain hvalue)
  | heapDumpPath =>
      rw [Spells] at hvalue
      cases hpath : options.heapDumpPath with
      | none => exact hplain (by simp [hvalue, hpath, IsPlain])
      | some path =>
          rw [hvalue, hpath]
          exact ⟨hoptions.path_isBare path hpath, hoptions.path_no_comma path hpath⟩
  | signal => exact hplain (hvalue.elim IsDecimal.isPlain IsSignalName.isPlain)

/-- A spelling means the setting that it spells; the empty one, of no path, is the standard. -/
theorem Spells.means {options : Options} (hoptions : Writable options) {key : Key}
    {value : List Char} (hvalue : Spells options key value) :
    value ≠ [] ∧ Means key value (options.setting key) ∨
      value = [] ∧ options.setting key = default.setting key := by
  cases key with
  | time =>
      exact .inl ⟨hvalue.isNumeral.ne_nil, _, hvalue.isNumber, hoptions.one_le_seconds,
        hoptions.seconds_le, rfl⟩
  | count =>
      exact .inl ⟨hvalue.isNumeral.ne_nil, _, hvalue.isNumber, hoptions.count_le, rfl⟩
  | printHeapHistogram => exact .inl ⟨IsFlag.ne_nil hvalue, _, hvalue, rfl⟩
  | heapHistogramMaxEntries =>
      exact .inl ⟨hvalue.isNumeral.ne_nil, _, hvalue.isNumber, hoptions.histogramEntries_le, rfl⟩
  | printMemoryUsage => exact .inl ⟨IsFlag.ne_nil hvalue, _, hvalue, rfl⟩
  | printThreadDump => exact .inl ⟨IsFlag.ne_nil hvalue, _, hvalue, rfl⟩
  | heapDumpPath =>
      rw [Spells] at hvalue
      cases hpath : options.heapDumpPath with
      | none =>
          rw [hpath] at hvalue
          exact .inr ⟨hvalue, congrArg Setting.heapDumpPath hpath⟩
      | some path =>
          rw [hpath] at hvalue
          refine .inl ⟨hvalue ▸ hoptions.path_ne_nil path hpath, ?_⟩
          change Setting.heapDumpPath options.heapDumpPath = _
          rw [hpath, hvalue, Option.elim_some, String.ofList_toList]
  | signal =>
      rcases hvalue with hvalue | hvalue
      · exact .inl ⟨hvalue.isNumeral.ne_nil, _, .inl hvalue.isNumber, rfl⟩
      · exact .inl ⟨hvalue.ne_nil, _, .inr hvalue, rfl⟩

/-! ## Parts -/

theorem notMem_of_isPadded {inner outer : List Char} {c : Char}
    (hpadded : Text.IsPadded inner outer) (hc : Text.isBlank c = false) (hinner : c ∉ inner) :
    c ∉ outer := by
  obtain ⟨left, right, hleft, hright, rfl⟩ := hpadded
  have hblank : ∀ text, Text.IsBlank text → c ∉ text := by
    intro text htext hmem
    rw [htext c hmem] at hc
    exact nomatch hc
  simp [hblank left hleft, hblank right hright, hinner]

theorem Writes.no_comma {options : Options} (hoptions : Writable options) {label : Option Key}
    {part : List Char} (hpart : Writes options label part) : ',' ∉ part := by
  cases hpart with
  | setting hkey hspells hvalue =>
      have hbefore := notMem_of_isPadded hkey (by decide) (name_isPlain _).no_comma
      have hafter := notMem_of_isPadded hvalue (by decide) (hspells.isBare hoptions).2
      simp [hbefore, hafter]
  | blank hblank => exact fun hc => absurd (hblank ',' hc) (by decide)
  | unknown _ _ _ hbefore hafter => simp [hbefore, hafter]

theorem no_comma_of_writes {options : Options} (hoptions : Writable options)
    {labels : List (Option Key)} {parts : List (List Char)}
    (hparts : List.Forall₂ (Writes options) labels parts) : ∀ part ∈ parts, ',' ∉ part := by
  induction hparts with
  | nil => nofun
  | cons hpart _ ih => exact List.forall_mem_cons.mpr ⟨hpart.no_comma hoptions, ih⟩

/-- The core of a part with an equals sign has the key and value that the part has. -/
theorem isKeyValue_trim {before key after value : List Char} (hbefore : Text.IsCore key before)
    (hequals : '=' ∉ before) (hafter : Text.IsCore value after) :
    IsKeyValue (Text.trim (before ++ '=' :: after)) key value := by
  refine ⟨before.dropWhile Text.isBlank, Text.trimEnd after,
    Text.trim_append_cons (by decide) before after, ?_, hbefore.dropWhile, hafter.trimEnd⟩
  exact fun hc => hequals ((List.dropWhile_suffix _).subset hc)

theorem trim_append_equals_ne_nil (before after : List Char) :
    Text.trim (before ++ '=' :: after) ≠ [] := by
  rw [Text.trim_append_cons (by decide)]
  exact List.append_ne_nil_of_right_ne_nil _ (List.cons_ne_nil _ _)

/-- What becomes of a part: the setting is asked for, or nothing is. -/
theorem Writes.asks {options : Options} (hoptions : Writable options) {label : Option Key}
    {part : List Char} (hpart : Writes options label part) :
    label = none ∧ Text.trim part = [] ∨
      Text.trim part ≠ [] ∧ ∃ setting, Asks (Text.trim part) setting ∧
        keyOf? setting = label ∧ ∀ key ∈ label, setting = options.setting key := by
  cases hpart with
  | blank hblank => exact .inl ⟨rfl, hblank.trim_eq⟩
  | @unknown before name after hname hunknown hequals =>
      refine .inr ⟨trim_append_equals_ne_nil before after, .unknown (String.ofList name), ?_, rfl,
        nofun⟩
      exact .unknown (isKeyValue_trim hname hequals (Text.trim_eq_iff.mp rfl)) hunknown
  | @setting key before value after hkey hspells hvalue =>
      have hplain := name_isPlain key
      have hpiece : IsKeyValue (Text.trim (before ++ '=' :: after)) key.name.toList value :=
        isKeyValue_trim ⟨hplain.isBare, hkey⟩
          (notMem_of_isPadded hkey (by decide) hplain.no_equals)
          ⟨(hspells.isBare hoptions).1, hvalue⟩
      refine .inr ⟨trim_append_equals_ne_nil before after, options.setting key, ?_,
        keyOf?_setting options key, by simp⟩
      rcases hspells.means hoptions with ⟨hne, hmeans⟩ | ⟨rfl, hstandard⟩
      · exact .given hpiece hne hmeans
      · exact hstandard ▸ .standard hpiece

/-! ## The whole text -/

/-- Parts are read onto any options: those they were written for show under their labels. -/
theorem readPieces_of_writes {options : Options} (hoptions : Writable options)
    {labels : List (Option Key)} {parts : List (List Char)}
    (hparts : List.Forall₂ (Writes options) labels parts) (start : Options) :
    ∃ result,
      (readPieces start ((parts.map Text.trim).filter fun piece => !piece.isEmpty)).1 =
          .ok result ∧
        ∀ key, result.setting key =
          if some key ∈ labels then options.setting key else start.setting key := by
  induction hparts generalizing start with
  | nil => exact ⟨start, rfl, fun key => by simp⟩
  | @cons label part labels parts hpart hrest ih =>
      rw [List.map_cons]
      rcases hpart.asks hoptions with ⟨rfl, hempty⟩ | ⟨hne, setting, hasks, hlabel, hsetting⟩
      · obtain ⟨result, hread, hkeys⟩ := ih start
        refine ⟨result, ?_, fun key => by simp [hkeys]⟩
        rwa [hempty, List.filter_cons_of_neg (by simp)]
      · obtain ⟨result, hread, hkeys⟩ := ih (setting.apply start)
        refine ⟨result, ?_, fun key => ?_⟩
        · rwa [List.filter_cons_of_pos (by simp [hne]), readPieces_cons hasks]
        · rw [hkeys, setting_apply, hlabel]
          by_cases hkey : label = some key
          · simp [hkey, hsetting key hkey]
          · simp [hkey, Ne.symm hkey]

/-- Options are read back from every text that writes them. -/
theorem read_written {options : Options} {text : String} (hoptions : Writable options)
    (hwritten : IsWritten options text) : (read text).1 = .ok options := by
  obtain ⟨labels, parts, hparts, hlabels, htext⟩ := hwritten
  have hmem : ∀ key : Key, some key ∈ labels := by
    intro key
    have hkey : key ∈ labels.filterMap id := hlabels.mem_iff.mpr key.mem_all
    simpa using hkey
  have hne : parts ≠ [] := by
    rintro rfl
    rw [List.forall₂_nil_right_iff.mp hparts] at hmem
    exact List.not_mem_nil (hmem .time)
  obtain ⟨result, hread, hkeys⟩ := readPieces_of_writes hoptions hparts default
  have hresult : result = options := ext_setting fun key => by rw [hkeys, if_pos (hmem key)]
  have hcut : Text.cut ',' text.toList = parts :=
    Text.cut_eq_iff.mpr ⟨hne, no_comma_of_writes hoptions hparts, htext.symm⟩
  rw [read, pieces, hcut, hread, hresult]

/-- Options that differ from the standard ones in a number, a path and the signal. -/
def sample : Options :=
  { default with seconds := 7, heapDumpPath := some "/tmp/a=b %d", signal := .usr1 }

theorem writable_sample : Writable sample where
  one_le_seconds := by decide
  seconds_le := by decide
  count_le := by decide
  histogramEntries_le := by decide
  path_ne_nil := by rintro _ ⟨⟩; decide
  path_no_comma := by rintro _ ⟨⟩; decide
  path_isBare := by
    rintro _ ⟨⟩
    exact (Text.trim_eq_iff.mp (rfl : Text.trim "/tmp/a=b %d".toList = _)).1

def sampleText : String :=
  " signal= sIguSr1\t,,time =007,colour=red=2,count=0,heapDumpPath=/tmp/a=b %d," ++
    "printMemoryUsage=1,\n,heapHistogramMaxEntries=100,printThreadDump=0,printHeapHistogram= 0"

theorem isWritten_sample : IsWritten sample sampleText := by
  have hbare : ∀ text : List Char, Text.IsPadded text text := fun text =>
    ⟨[], [], nofun, nofun, by simp⟩
  have hsignal : Spells sample .signal "sIguSr1".toList := .inr (.inl (by decide))
  have htime : Spells sample .time "007".toList := ⟨2, by decide⟩
  have hentries : Spells sample .heapHistogramMaxEntries "100".toList := ⟨0, by decide⟩
  have hparts : List.Forall₂ (Writes sample) [some .signal, none, some .time, none, some .count,
      some .heapDumpPath, some .printMemoryUsage, none, some .heapHistogramMaxEntries,
      some .printThreadDump, some .printHeapHistogram] _ :=
    .cons (.setting ⟨[' '], [], by decide, by decide, rfl⟩ hsignal
        ⟨[' '], ['\t'], by decide, by decide, rfl⟩) <|
      .cons (.blank (by decide : Text.IsBlank [])) <|
      .cons (.setting ⟨[], [' '], by decide, by decide, rfl⟩ htime (hbare _)) <|
      .cons (.unknown (Text.trim_eq_iff.mp (rfl : Text.trim "colour".toList = _))
        ⟨by decide, fun key => by cases key <;> decide⟩ (by decide) (by decide)
        (by decide : ',' ∉ "red=2".toList)) <|
      .cons (.setting (hbare _) ⟨0, rfl⟩ (hbare _)) <|
      .cons (.setting (hbare _) rfl (hbare _)) <|
      .cons (.setting (hbare _) rfl (hbare _)) <|
      .cons (.blank (by decide : Text.IsBlank ['\n'])) <|
      .cons (.setting (hbare _) hentries (hbare _)) <|
      .cons (.setting (hbare _) rfl (hbare _)) <|
      .cons (.setting (hbare _) rfl ⟨[' '], [], by decide, by decide, rfl⟩) .nil
  exact ⟨_, _, hparts, by decide, by decide +kernel⟩

theorem read_written_sample :
    Writable sample ∧ IsWritten sample sampleText ∧ (read sampleText).1 = .ok sample :=
  ⟨writable_sample, isWritten_sample, read_written writable_sample isWritten_sample⟩

end ExhaustionGuard.Options
