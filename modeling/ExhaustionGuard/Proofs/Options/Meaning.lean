import ExhaustionGuard.Options.Reader
import ExhaustionGuard.Proofs.Text.Numerals
import Mathlib

/-! # What the value of an option means

Each of the known keys has a language of values: numbers, flags, signals and
paths. A value is read as a setting just if it belongs to the language of its
key. Options are nothing but their settings under the known keys.
-/

namespace ExhaustionGuard.Options

/-- The keys that stand for a setting. -/
inductive Key where
  | time | count | printHeapHistogram | heapHistogramMaxEntries | printMemoryUsage
  | printThreadDump | heapDumpPath | signal
  deriving DecidableEq, Repr

namespace Key

def name : Key → String
  | time => "time"
  | count => "count"
  | printHeapHistogram => "printHeapHistogram"
  | heapHistogramMaxEntries => "heapHistogramMaxEntries"
  | printMemoryUsage => "printMemoryUsage"
  | printThreadDump => "printThreadDump"
  | heapDumpPath => "heapDumpPath"
  | signal => "signal"

def all : List Key :=
  [time, count, printHeapHistogram, heapHistogramMaxEntries, printMemoryUsage, printThreadDump,
    heapDumpPath, signal]

theorem mem_all (key : Key) : key ∈ all := by
  cases key <;> decide

end Key

/-! ## Languages -/

def IsFlag (value : List Char) (flag : Bool) : Prop :=
  value = if flag then ['1'] else ['0']

/-- A signal is written as its number, or as its name in letters of any case, with or without the
three letters that all names begin with. -/
def IsSignal (value : List Char) (signal : Signal) : Prop :=
  Text.IsNumber value signal.number ∨ value.map Char.toUpper = signal.name.toList ∨
    ['S', 'I', 'G'] ++ value.map Char.toUpper = signal.name.toList

/-- The setting that a value stands for under a key. -/
def Means : Key → List Char → Setting → Prop
  | .time, value, setting =>
      ∃ n, Text.IsNumber value n ∧ 1 ≤ n ∧ n ≤ wordMax ∧ setting = .seconds n
  | .count, value, setting => ∃ n, Text.IsNumber value n ∧ n ≤ wordMax ∧ setting = .count n
  | .printHeapHistogram, value, setting => ∃ flag, IsFlag value flag ∧ setting = .heapHistogram flag
  | .heapHistogramMaxEntries, value, setting =>
      ∃ n, Text.IsNumber value n ∧ n ≤ wordMax ∧ setting = .histogramEntries n
  | .printMemoryUsage, value, setting => ∃ flag, IsFlag value flag ∧ setting = .memoryUsage flag
  | .printThreadDump, value, setting => ∃ flag, IsFlag value flag ∧ setting = .threadDump flag
  | .heapDumpPath, value, setting => setting = .heapDumpPath (some (String.ofList value))
  | .signal, value, setting => ∃ signal, IsSignal value signal ∧ setting = .signal signal

theorem readNumber_eq_ok_iff {value : List Char} {n : Nat} :
    readNumber value = .ok n ↔ Text.IsNumber value n ∧ n ≤ wordMax := by
  rw [← Text.readNatural_eq_ok_iff, readNumber]
  cases Text.readNatural wordMax value <;> simp

theorem readSeconds_eq_ok_iff {value : List Char} {n : Nat} :
    readSeconds value = .ok n ↔ Text.IsNumber value n ∧ 1 ≤ n ∧ n ≤ wordMax := by
  have hnumber : readNumber value = .ok n ↔ Text.IsNumber value n ∧ n ≤ wordMax :=
    readNumber_eq_ok_iff
  unfold readSeconds
  split
  next hzero =>
    rw [hzero, Except.ok.injEq] at hnumber
    refine ⟨nofun, fun hall => ?_⟩
    have := hnumber.mpr ⟨hall.1, hall.2.2⟩
    omega
  next hzero =>
    rw [hnumber]
    refine ⟨fun hall => ⟨hall.1, ?_, hall.2⟩, fun hall => ⟨hall.1, hall.2.2⟩⟩
    refine Nat.one_le_iff_ne_zero.mpr ?_
    rintro rfl
    exact hzero (hnumber.mpr hall)

theorem readFlag_eq_ok_iff {value : List Char} {flag : Bool} :
    readFlag value = .ok flag ↔ IsFlag value flag := by
  unfold readFlag IsFlag
  split
  next hzero => cases flag <;> simp [hzero]
  next hzero =>
    split
    next hone => cases flag <;> simp [hone]
    next hone => cases flag <;> simp [hzero, hone]

/-! ## Signals -/

/-- Behind the letters that all names begin with there is a letter, and not the same ones again. -/
theorem exists_name_eq (signal : Signal) : ∃ c rest,
    signal.name.toList = ['S', 'I', 'G'] ++ c :: rest ∧ c.isUpper = true ∧
      ['S', 'I', 'G'].isPrefixOf (c :: rest) = false := by
  cases signal <;> exact ⟨_, _, rfl, by decide, by decide⟩

theorem fullSignalName_eq_iff {value : List Char} {signal : Signal} :
    fullSignalName value = signal.name.toList ↔
      value.map Char.toUpper = signal.name.toList ∨
        ['S', 'I', 'G'] ++ value.map Char.toUpper = signal.name.toList := by
  obtain ⟨c, rest, hname, -, honce⟩ := exists_name_eq signal
  simp only [fullSignalName]
  split
  next hprefix =>
    refine ⟨.inl, fun hname' => hname'.resolve_right fun hlong => ?_⟩
    rw [hname] at hlong
    rw [List.append_cancel_left hlong, honce] at hprefix
    exact Bool.false_ne_true hprefix
  next hprefix =>
    refine ⟨.inr, fun hname' => hname'.resolve_left fun hshort => hprefix ?_⟩
    rw [hshort, hname]
    rfl

theorem not_isUpper_toUpper_of_isDigit {c : Char} (hc : c.isDigit = true) :
    ¬ c.toUpper.isUpper = true := by
  have hdigit : 48 ≤ c.toNat ∧ c.toNat ≤ 57 := by
    simpa [Char.isDigit, UInt32.le_iff_toNat_le] using hc
  have hlower : ¬ c.isLower = true := by
    simp [Char.isLower, UInt32.le_iff_toNat_le]
    omega
  rw [Char.toUpper_eq_of_not_isLower hlower]
  simp [Char.isUpper, UInt32.le_iff_toNat_le]
  omega

/-- What begins with a letter is no number. -/
theorem not_isUpper_of_readInt32_eq_ok {value : List Char} {n : Int}
    (hread : Text.readInt32 value = .ok n) :
    ∀ c ∈ (value.map Char.toUpper).head?, ¬ c.isUpper = true := by
  intro c hc
  cases value with
  | nil => exact nomatch hc
  | cons first rest =>
      obtain rfl : first.toUpper = c := Option.some.inj hc
      rcases Text.of_readInt32_eq_ok hread with hdigit | rfl | rfl
      · exact not_isUpper_toUpper_of_isDigit hdigit
      · decide
      · decide

theorem not_isUpper_head_of_name {value : List Char} {signal : Signal}
    (hname : value.map Char.toUpper = signal.name.toList ∨
      ['S', 'I', 'G'] ++ value.map Char.toUpper = signal.name.toList) :
    ∃ c ∈ (value.map Char.toUpper).head?, c.isUpper = true := by
  obtain ⟨c, rest, hrest, hupper, -⟩ := exists_name_eq signal
  rw [hrest] at hname
  rcases hname with hname | hname
  · exact ⟨'S', by rw [hname]; rfl, by decide⟩
  · exact ⟨c, by rw [List.append_cancel_left hname]; rfl, hupper⟩

theorem ofNumber?_eq_some_iff {n : Int} {signal : Signal} :
    Signal.ofNumber? n = some signal ↔ n = signal.number := by
  constructor
  · intro hfound
    have hnumber := List.find?_some hfound
    exact (beq_iff_eq.mp hnumber).symm
  · rintro rfl
    exact signal.ofNumber?_number

theorem ofName?_eq_some_iff {text : List Char} {signal : Signal} :
    Signal.ofName? (String.ofList text) = some signal ↔ text = signal.name.toList := by
  constructor
  · intro hfound
    have hname := List.find?_some hfound
    rw [beq_iff_eq.mp hname, String.toList_ofList]
  · rintro rfl
    rw [String.ofList_toList, signal.ofName?_name]

theorem number_pos_le (signal : Signal) : 0 < signal.number ∧ signal.number ≤ 0x7FFFFFFF := by
  cases signal <;> decide

theorem readSignal_eq_ok_iff {value : List Char} {signal : Signal} :
    readSignal value = .ok signal ↔ IsSignal value signal := by
  have hnumber : Text.readInt32 value = .ok (signal.number : Int) ↔
      Text.IsNumber value signal.number := by
    rw [Text.readInt32_eq_ok_iff (number_pos_le signal).1, and_iff_left (number_pos_le signal).2]
  unfold readSignal IsSignal
  rw [← hnumber, ← fullSignalName_eq_iff]
  split
  next n hread =>
    have hname : fullSignalName value ≠ signal.name.toList := by
      intro hname
      obtain ⟨c, hc, hupper⟩ := not_isUpper_head_of_name (fullSignalName_eq_iff.mp hname)
      exact not_isUpper_of_readInt32_eq_ok hread c hc hupper
    rw [hread, or_iff_left hname, Except.ok.injEq, ← ofNumber?_eq_some_iff]
    cases Signal.ofNumber? n <;> simp
  next error hread =>
    rw [hread, or_iff_right (by exact nofun), ← ofName?_eq_some_iff]
    cases Signal.ofName? (String.ofList (fullSignalName value)) <;> simp

/-! ## Settings -/

theorem settingOf_name_eq_ok_iff {key : Key} {value : List Char} {setting : Setting} :
    settingOf key.name value = .ok setting ↔ Means key value setting := by
  have hmap : ∀ {α : Type} {result : Except ValueFault α} {f : α → Setting},
      result.map f = .ok setting ↔ ∃ a, result = .ok a ∧ setting = f a := by
    intro α result f
    cases result <;> simp [Except.map, eq_comm]
  cases key <;> simp only [settingOf, Key.name, Means, hmap, readSeconds_eq_ok_iff,
    readNumber_eq_ok_iff, readFlag_eq_ok_iff, readSignal_eq_ok_iff, and_assoc, Except.ok.injEq,
    eq_comm (a := setting)]

/-- The setting of options under a key. -/
def setting (options : Options) : Key → Setting
  | .time => .seconds options.seconds
  | .count => .count options.count
  | .printHeapHistogram => .heapHistogram options.heapHistogram
  | .heapHistogramMaxEntries => .histogramEntries options.histogramEntries
  | .printMemoryUsage => .memoryUsage options.memoryUsage
  | .printThreadDump => .threadDump options.threadDump
  | .heapDumpPath => .heapDumpPath options.heapDumpPath
  | .signal => .signal options.signal

/-- Options are told apart by their settings. -/
theorem ext_setting {options other : Options}
    (hsettings : ∀ key, options.setting key = other.setting key) : options = other := by
  have htime := hsettings .time
  have hcount := hsettings .count
  have hhistogram := hsettings .printHeapHistogram
  have hentries := hsettings .heapHistogramMaxEntries
  have husage := hsettings .printMemoryUsage
  have hthreads := hsettings .printThreadDump
  have hpath := hsettings .heapDumpPath
  have hsignal := hsettings .signal
  cases options
  cases other
  simp_all [setting]

/-- The key that a setting belongs to. -/
def keyOf? : Setting → Option Key
  | .seconds _ => some .time
  | .count _ => some .count
  | .heapHistogram _ => some .printHeapHistogram
  | .histogramEntries _ => some .heapHistogramMaxEntries
  | .memoryUsage _ => some .printMemoryUsage
  | .threadDump _ => some .printThreadDump
  | .heapDumpPath _ => some .heapDumpPath
  | .signal _ => some .signal
  | .unknown _ => none

/-- A setting changes what the options say under its own key and nothing else. -/
theorem setting_apply (options : Options) (setting : Setting) (key : Key) :
    (setting.apply options).setting key =
      if keyOf? setting = some key then setting else options.setting key := by
  cases setting <;> cases key <;> rfl

theorem keyOf?_setting (options : Options) (key : Key) :
    keyOf? (options.setting key) = some key := by
  cases key <;> rfl

theorem Means.keyOf? {key : Key} {value : List Char} {setting : Setting}
    (hmeans : Means key value setting) : keyOf? setting = some key :=
  match key, setting, hmeans with
  | .time, _, ⟨_, _, _, _, rfl⟩ => rfl
  | .count, _, ⟨_, _, _, rfl⟩ => rfl
  | .printHeapHistogram, _, ⟨_, _, rfl⟩ => rfl
  | .heapHistogramMaxEntries, _, ⟨_, _, _, rfl⟩ => rfl
  | .printMemoryUsage, _, ⟨_, _, rfl⟩ => rfl
  | .printThreadDump, _, ⟨_, _, rfl⟩ => rfl
  | .heapDumpPath, _, rfl => rfl
  | .signal, _, ⟨_, _, rfl⟩ => rfl

theorem standardSetting_name (key : Key) : standardSetting key.name = default.setting key := by
  cases key <;> rfl

theorem ne_of_ne_name {name : String} (hname : ∀ key : Key, name ≠ key.name) :
    name ≠ "time" ∧ name ≠ "count" ∧ name ≠ "printHeapHistogram" ∧
      name ≠ "heapHistogramMaxEntries" ∧ name ≠ "printMemoryUsage" ∧ name ≠ "printThreadDump" ∧
        name ≠ "heapDumpPath" ∧ name ≠ "signal" :=
  ⟨hname .time, hname .count, hname .printHeapHistogram, hname .heapHistogramMaxEntries,
    hname .printMemoryUsage, hname .printThreadDump, hname .heapDumpPath, hname .signal⟩

theorem standardSetting_of_ne_name {name : String} (hname : ∀ key : Key, name ≠ key.name) :
    standardSetting name = .unknown name := by
  simp [standardSetting, ne_of_ne_name hname]

theorem settingOf_of_ne_name {name : String} (hname : ∀ key : Key, name ≠ key.name)
    (value : List Char) : settingOf name value = .ok (.unknown name) := by
  simp [settingOf, ne_of_ne_name hname]

end ExhaustionGuard.Options
