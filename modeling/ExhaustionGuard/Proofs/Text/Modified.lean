import ExhaustionGuard.Text.Lossy
import Mathlib.Data.List.Basic

/-! # Modified UTF-8

A Java machine takes and gives texts in an encoding of its own, unit by unit: a
character above U+FFFF is two surrogates of three bytes each, and NUL is two bytes,
so that no byte is zero. Plain UTF-8 is the same but for these characters, and where
it differs it is no encoding of anything.
-/

namespace ExhaustionGuard.Text

/-! ## Units -/

/-- The units of 16 bits of a character; above U+FFFF it takes a pair of surrogates. -/
def units16 (c : Char) : List Nat :=
  if c.toNat ≤ 0xFFFF then [c.toNat]
  else [0xD800 + (c.toNat - 0x10000) / 0x400, 0xDC00 + (c.toNat - 0x10000) % 0x400]

/-- The units of a text, as a Java string holds them. -/
def utf16 (text : String) : List Nat :=
  text.toList.flatMap units16

theorem toNat_lt (c : Char) : c.toNat < 0x110000 := by
  have hvalid := c.valid
  simp only [Char.toNat, UInt32.isValidChar, Nat.isValidChar] at hvalid ⊢
  omega

/-- No character is a surrogate itself. -/
theorem toNat_lt_or_lt (c : Char) : c.toNat < 0xD800 ∨ 0xDFFF < c.toNat := by
  have hvalid := c.valid
  simp only [Char.toNat, UInt32.isValidChar, Nat.isValidChar] at hvalid ⊢
  omega

theorem le_of_mem_units16 {c : Char} {unit : Nat} (hunit : unit ∈ units16 c) : unit ≤ 0xFFFF := by
  have hc := toNat_lt c
  rw [units16] at hunit
  split at hunit
  next hbasic => rwa [List.mem_singleton.mp hunit]
  next =>
    simp only [List.mem_cons, List.not_mem_nil, or_false] at hunit
    omega

theorem le_of_mem_utf16 {text : String} {unit : Nat} (hunit : unit ∈ utf16 text) :
    unit ≤ 0xFFFF := by
  obtain ⟨c, -, hc⟩ := List.mem_flatMap.mp hunit
  exact le_of_mem_units16 hc

/-- Units tell where the first character ends, and which one it is. -/
theorem units16_append_inj {c d : Char} {left right : List Nat}
    (heq : units16 c ++ left = units16 d ++ right) : c = d ∧ left = right := by
  have hc := toNat_lt c
  have hd := toNat_lt d
  have hnoC := toNat_lt_or_lt c
  have hnoD := toNat_lt_or_lt d
  rw [units16, units16] at heq
  suffices c.toNat = d.toNat ∧ left = right from ⟨Char.toNat_inj.mp this.1, this.2⟩
  split at heq <;> split at heq <;>
    simp only [List.cons_append, List.nil_append, List.cons.injEq] at heq
  · exact heq
  · omega
  · omega
  · exact ⟨by omega, heq.2.2⟩

theorem units16_ne_nil (c : Char) : units16 c ≠ [] := by
  rw [units16]
  split <;> exact List.cons_ne_nil _ _

theorem flatMap_units16_injective {cs ds : List Char}
    (heq : cs.flatMap units16 = ds.flatMap units16) : cs = ds := by
  induction cs generalizing ds with
  | nil =>
      cases ds with
      | nil => rfl
      | cons d ds => exact absurd (List.append_eq_nil_iff.mp heq.symm).1 (units16_ne_nil d)
  | cons c cs ih =>
      cases ds with
      | nil => exact absurd (List.append_eq_nil_iff.mp heq).1 (units16_ne_nil c)
      | cons d ds =>
          obtain ⟨rfl, hrest⟩ := units16_append_inj heq
          rw [ih hrest]

/-- A Java string stands for one text only. -/
theorem utf16_injective {text other : String} (heq : utf16 text = utf16 other) : text = other :=
  String.toList_inj.mp (flatMap_units16_injective heq)

namespace Modified

/-- The bytes of one unit. -/
def encodeUnit (unit : Nat) : Bytes :=
  if 0 < unit ∧ unit ≤ 0x7F then [UInt8.ofNat unit]
  else if unit ≤ 0x7FF then [UInt8.ofNat (0xC0 + unit / 64), UInt8.ofNat (0x80 + unit % 64)]
  else [UInt8.ofNat (0xE0 + unit / 4096), UInt8.ofNat (0x80 + unit / 64 % 64),
    UInt8.ofNat (0x80 + unit % 64)]

def encode (text : String) : Bytes :=
  (utf16 text).flatMap encodeUnit

/-- A byte that goes on with a unit. -/
def IsTail (byte : UInt8) : Prop :=
  byte.toNat / 64 = 2

/-- The units that bytes stand for. -/
inductive Reads : Bytes → List Nat → Prop
  | nil : Reads [] []
  | one {byte : UInt8} {rest : Bytes} {units : List Nat} :
      0 < byte.toNat → byte.toNat ≤ 0x7F → Reads rest units →
      Reads (byte :: rest) (byte.toNat :: units)
  | two {first last : UInt8} {rest : Bytes} {units : List Nat} :
      first.toNat / 32 = 6 → IsTail last → Reads rest units →
      Reads (first :: last :: rest) ((first.toNat % 32 * 64 + last.toNat % 64) :: units)
  | three {first middle last : UInt8} {rest : Bytes} {units : List Nat} :
      first.toNat / 16 = 14 → IsTail middle → IsTail last → Reads rest units →
      Reads (first :: middle :: last :: rest)
        ((first.toNat % 16 * 4096 + middle.toNat % 64 * 64 + last.toNat % 64) :: units)

/-! ## Reading -/

section Reading

variable {first middle last : UInt8} {rest : Bytes} {units : List Nat}

/-- NUL begins no unit, and no unit takes more than three bytes. -/
theorem not_reads_of_first (hbegins : 0 < first.toNat → 0xF0 ≤ first.toNat) :
    ¬ Reads (first :: rest) units := by
  intro hreads
  cases hreads with
  | one hpos hlow _ => omega
  | two hfirst _ _ => omega
  | three hfirst _ _ _ => omega

theorem reads_one_iff (hpos : 0 < first.toNat) (hlow : first.toNat ≤ 0x7F) :
    Reads (first :: rest) units ↔ ∃ later, units = first.toNat :: later ∧ Reads rest later := by
  constructor
  · intro hreads
    cases hreads with
    | one _ _ hrest => exact ⟨_, rfl, hrest⟩
    | two hfirst _ _ => omega
    | three hfirst _ _ _ => omega
  · rintro ⟨later, rfl, hrest⟩
    exact .one hpos hlow hrest

theorem reads_two_iff (hfirst : first.toNat / 32 = 6) (hlast : IsTail last) :
    Reads (first :: last :: rest) units ↔
      ∃ later, units = (first.toNat % 32 * 64 + last.toNat % 64) :: later ∧ Reads rest later := by
  constructor
  · intro hreads
    cases hreads with
    | one _ hlow _ => omega
    | two _ _ hrest => exact ⟨_, rfl, hrest⟩
    | three hother _ _ _ => omega
  · rintro ⟨later, rfl, hrest⟩
    exact .two hfirst hlast hrest

theorem reads_three_iff (hfirst : first.toNat / 16 = 14) (hmiddle : IsTail middle)
    (hlast : IsTail last) :
    Reads (first :: middle :: last :: rest) units ↔
      ∃ later, units = (first.toNat % 16 * 4096 + middle.toNat % 64 * 64 + last.toNat % 64) ::
        later ∧ Reads rest later := by
  constructor
  · intro hreads
    cases hreads with
    | one _ hlow _ => omega
    | two hother _ _ => omega
    | three _ _ _ hrest => exact ⟨_, rfl, hrest⟩
  · rintro ⟨later, rfl, hrest⟩
    exact .three hfirst hmiddle hlast hrest

end Reading

theorem isTail_ofNat (n : Nat) : IsTail (UInt8.ofNat (0x80 + n % 64)) := by
  rw [IsTail, UInt8.toNat_ofNat_of_lt' (show 0x80 + n % 64 < 256 by omega)]
  omega

/-- The bytes of a unit are read as this unit, whatever follows. -/
theorem reads_encodeUnit_append {unit : Nat} (hunit : unit ≤ 0xFFFF) {rest : Bytes}
    {units : List Nat} :
    Reads (encodeUnit unit ++ rest) units ↔ ∃ later, units = unit :: later ∧ Reads rest later := by
  have hbyte : ∀ {n : Nat}, n < 256 → (UInt8.ofNat n).toNat = n := UInt8.toNat_ofNat_of_lt'
  have hlast := hbyte (show 0x80 + unit % 64 < 256 by omega)
  rw [encodeUnit]
  split
  next hone =>
    have hvalue := hbyte (show unit < 256 by omega)
    have hpos : 0 < (UInt8.ofNat unit).toNat := by omega
    have hlow : (UInt8.ofNat unit).toNat ≤ 0x7F := by omega
    rw [List.singleton_append, reads_one_iff hpos hlow, hvalue]
  split
  next hmore htwo =>
    have hfirst := hbyte (show 0xC0 + unit / 64 < 256 by omega)
    have hlead : (UInt8.ofNat (0xC0 + unit / 64)).toNat / 32 = 6 := by omega
    have hvalue : (0xC0 + unit / 64) % 32 * 64 + (0x80 + unit % 64) % 64 = unit := by omega
    rw [List.cons_append, List.singleton_append, reads_two_iff hlead (isTail_ofNat unit), hfirst,
      hlast, hvalue]
  next hmore hthree =>
    have hfirst := hbyte (show 0xE0 + unit / 4096 < 256 by omega)
    have hmiddle := hbyte (show 0x80 + unit / 64 % 64 < 256 by omega)
    have hlead : (UInt8.ofNat (0xE0 + unit / 4096)).toNat / 16 = 14 := by omega
    have hvalue : (0xE0 + unit / 4096) % 16 * 4096 + (0x80 + unit / 64 % 64) % 64 * 64 +
        (0x80 + unit % 64) % 64 = unit := by omega
    rw [List.cons_append, List.cons_append, List.singleton_append,
      reads_three_iff hlead (isTail_ofNat _) (isTail_ofNat unit), hfirst, hmiddle, hlast, hvalue]

theorem reads_flatMap_encodeUnit {written units : List Nat}
    (hwritten : ∀ unit ∈ written, unit ≤ 0xFFFF) :
    Reads (written.flatMap encodeUnit) units ↔ units = written := by
  induction written generalizing units with
  | nil =>
      constructor
      · intro hreads
        cases hreads
        rfl
      · rintro rfl
        exact .nil
  | cons unit rest ih =>
      obtain ⟨hunit, hrest⟩ := List.forall_mem_cons.mp hwritten
      rw [List.flatMap_cons, reads_encodeUnit_append hunit]
      constructor
      · rintro ⟨later, rfl, hlater⟩
        rw [(ih hrest).mp hlater]
      · rintro rfl
        exact ⟨rest, rfl, (ih hrest).mpr rfl⟩

/-- The encoding is read as the units of the text and nothing else. -/
theorem reads_encode_iff {text : String} {units : List Nat} :
    Reads (encode text) units ↔ units = utf16 text :=
  reads_flatMap_encodeUnit fun _ => le_of_mem_utf16

end Modified

/-! ## Plain UTF-8 -/

/-- A character that both encodings write alike. -/
def IsBasic (c : Char) : Prop :=
  0 < c.toNat ∧ c.toNat ≤ 0xFFFF

theorem utf8EncodeChar_of_isBasic {c : Char} (hbasic : IsBasic c) :
    String.utf8EncodeChar c = (units16 c).flatMap Modified.encodeUnit := by
  obtain ⟨hpos, hlow⟩ := hbasic
  rw [units16, if_pos hlow, List.flatMap_singleton]
  simp only [String.utf8EncodeChar, Modified.encodeUnit, Char.toNat] at hpos hlow ⊢
  by_cases hone : c.val.toNat ≤ 0x7F
  · rw [if_pos hone, if_pos ⟨hpos, hone⟩]
  have hmore : ¬ (0 < c.val.toNat ∧ c.val.toNat ≤ 0x7F) := fun hboth => hone hboth.2
  rw [if_neg hone, if_neg hmore]
  by_cases htwo : c.val.toNat ≤ 0x7FF
  · rw [if_pos htwo, if_pos htwo, Nat.mod_eq_of_lt (by omega), Nat.add_comm, Nat.add_comm 0x80]
  · rw [if_neg htwo, if_neg htwo, if_pos hlow, Nat.mod_eq_of_lt (by omega), Nat.add_comm,
      Nat.add_comm 0x80, Nat.add_comm 0x80]

/-- Of a character that the encodings write differently plain UTF-8 makes bytes that begin no unit. -/
theorem not_reads_utf8EncodeChar {c : Char} (hother : ¬ IsBasic c) {rest : Bytes}
    {units : List Nat} : ¬ Modified.Reads (String.utf8EncodeChar c ++ rest) units := by
  have hfirst : ∃ first more, String.utf8EncodeChar c = first :: more ∧
      (0 < first.toNat → 0xF0 ≤ first.toNat) := by
    simp only [IsBasic, Char.toNat] at hother
    simp only [String.utf8EncodeChar]
    by_cases hone : c.val.toNat ≤ 0x7F
    · have hzero : c.val.toNat = 0 := by omega
      rw [if_pos hone, hzero]
      exact ⟨_, _, rfl, fun hpos => absurd hpos (by decide)⟩
    · rw [if_neg hone, if_neg (by omega), if_neg (by omega)]
      refine ⟨_, _, rfl, fun _ => ?_⟩
      rw [UInt8.toNat_ofNat_of_lt' (show _ < 256 by omega)]
      exact Nat.le_add_left _ _
  obtain ⟨first, more, hbytes, hbegins⟩ := hfirst
  rw [hbytes]
  exact Modified.not_reads_of_first hbegins

/-- Plain UTF-8 is read as the text just if all of it is basic, and never as anything else. -/
theorem reads_utf8_iff {text : String} {units : List Nat} :
    Modified.Reads (encode text) units ↔ (∀ c ∈ text.toList, IsBasic c) ∧ units = utf16 text := by
  rw [encode, utf16]
  generalize text.toList = cs
  induction cs generalizing units with
  | nil =>
      constructor
      · intro hreads
        cases hreads
        exact ⟨List.forall_mem_nil _, rfl⟩
      · rintro ⟨-, rfl⟩
        exact .nil
  | cons c rest ih =>
      rw [List.flatMap_cons, List.flatMap_cons, List.forall_mem_cons]
      by_cases hbasic : IsBasic c
      · have hunit : units16 c = [c.toNat] := if_pos hbasic.2
        rw [utf8EncodeChar_of_isBasic hbasic, hunit, List.flatMap_singleton,
          Modified.reads_encodeUnit_append hbasic.2]
        constructor
        · rintro ⟨later, rfl, hrest⟩
          obtain ⟨hall, rfl⟩ := ih.mp hrest
          exact ⟨⟨hbasic, hall⟩, rfl⟩
        · rintro ⟨⟨-, hall⟩, rfl⟩
          exact ⟨_, rfl, ih.mpr ⟨hall, rfl⟩⟩
      · exact ⟨fun hreads => absurd hreads (not_reads_utf8EncodeChar hbasic),
          fun hall => absurd hall.1.1 hbasic⟩

theorem encode_eq_modified_iff {text : String} :
    encode text = Modified.encode text ↔ ∀ c ∈ text.toList, IsBasic c := by
  constructor
  · intro heq
    have hreads : Modified.Reads (encode text) (utf16 text) := by
      rw [heq]
      exact Modified.reads_encode_iff.mpr rfl
    exact (reads_utf8_iff.mp hreads).1
  · intro hbasic
    rw [encode, Modified.encode, utf16, List.flatMap_assoc]
    exact List.flatMap_congr fun c hc => utf8EncodeChar_of_isBasic (hbasic c hc)

end ExhaustionGuard.Text
