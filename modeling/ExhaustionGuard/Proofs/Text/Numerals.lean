import ExhaustionGuard.Text.Decimal
import Mathlib.Tactic.Common

/-! # Numerals

The texts that are read as a number are its decimal numerals, with a plus sign
before them or none and with as many leading zeros as one likes. A number is
written in digits, with a minus sign where it is negative.
-/

namespace ExhaustionGuard.Text

/-- Decimal digits with a value. -/
structure IsNumeral (digits : List Char) (n : Nat) : Prop where
  ne_nil : digits ≠ []
  isDigit : ∀ c ∈ digits, c.isDigit = true
  value : Nat.ofDigitChars 10 digits 0 = n

/-- A numeral with a plus sign before it or none. -/
def IsNumber (text : List Char) (n : Nat) : Prop :=
  ∃ digits, IsNumeral digits n ∧ (text = digits ∨ text = '+' :: digits)

theorem isNumeral_toDigits (zeros n : Nat) :
    IsNumeral (List.replicate zeros '0' ++ Nat.toDigits 10 n) n where
  ne_nil := fun hnil => Nat.toDigits_ne_nil (List.append_eq_nil_iff.mp hnil).2
  isDigit c hc := by
    rcases List.mem_append.mp hc with hc | hc
    · exact List.eq_of_mem_replicate hc ▸ rfl
    · exact Nat.isDigit_of_mem_toDigits (by decide) (by decide) hc
  value := by
    rw [Nat.ofDigitChars_append, Nat.ofDigitChars_replicate_zero, Nat.mul_zero,
      Nat.ofDigitChars_ten_toDigits]

theorem isDigit_iff {c : Char} : c.isDigit = true ↔ '0' ≤ c ∧ c ≤ '9' := by
  simp [Char.isDigit, Char.le_def]

theorem digit?_of_isDigit {c : Char} (hc : c.isDigit = true) :
    digit? c = some (c.toNat - '0'.toNat) :=
  if_pos (isDigit_iff.mp hc)

theorem digit?_of_not_isDigit {c : Char} (hc : ¬ c.isDigit = true) : digit? c = none :=
  if_neg (isDigit_iff.not.mp hc)

theorem le_ofDigitChars (digits : List Char) (value : Nat) :
    value ≤ Nat.ofDigitChars 10 digits value := by
  rw [Nat.ofDigitChars_eq_ofDigitChars_zero]
  exact Nat.le_add_right_of_le (Nat.le_mul_of_pos_left value (Nat.pow_pos (by decide)))

/-- Digits are read onto a value unless they take it past the bound. -/
theorem readDigits_eq_ok_iff {bound value n : Nat} (hvalue : value ≤ bound) {digits : List Char} :
    readDigits bound value digits = .ok n ↔
      (∀ c ∈ digits, c.isDigit = true) ∧ Nat.ofDigitChars 10 digits value = n ∧ n ≤ bound := by
  induction digits generalizing value with
  | nil =>
      rw [readDigits, Nat.ofDigitChars_nil, Except.ok.injEq]
      exact ⟨fun heq => ⟨nofun, heq, heq ▸ hvalue⟩, fun hall => hall.2.1⟩
  | cons c rest ih =>
      rw [readDigits, List.forall_mem_cons]
      by_cases hc : c.isDigit = true
      · rw [digit?_of_isDigit hc, Nat.ofDigitChars_cons]
        simp only [hc, true_and]
        split
        next hle => exact ih hle
        next hlt =>
          refine ⟨nofun, fun hall => absurd ?_ hlt⟩
          exact Nat.le_trans (le_ofDigitChars rest _) (hall.2.1 ▸ hall.2.2)
      · rw [digit?_of_not_isDigit hc]
        exact ⟨nofun, fun hall => absurd hall.1.1 hc⟩

theorem readDigits_eq_ok_iff_isNumeral {bound n : Nat} {digits : List Char} (hne : digits ≠ []) :
    readDigits bound 0 digits = .ok n ↔ IsNumeral digits n ∧ n ≤ bound := by
  rw [readDigits_eq_ok_iff (Nat.zero_le bound)]
  exact ⟨fun hall => ⟨⟨hne, hall.1, hall.2.1⟩, hall.2.2⟩,
    fun hall => ⟨hall.1.isDigit, hall.1.value, hall.2⟩⟩

theorem isNumber_plus_iff {digits : List Char} {n : Nat} :
    IsNumber ('+' :: digits) n ↔ IsNumeral digits n := by
  constructor
  · rintro ⟨_, hnumeral, rfl | heq⟩
    · exact absurd (hnumeral.isDigit '+' List.mem_cons_self) (by decide)
    · exact (List.cons.inj heq).2 ▸ hnumeral
  · exact fun hnumeral => ⟨digits, hnumeral, .inr rfl⟩

theorem isNumber_iff_of_ne_plus {text : List Char} {n : Nat} (hplus : ∀ rest, text ≠ '+' :: rest) :
    IsNumber text n ↔ IsNumeral text n := by
  constructor
  · rintro ⟨digits, hnumeral, rfl | heq⟩
    · exact hnumeral
    · exact absurd heq (hplus digits)
  · exact fun hnumeral => ⟨text, hnumeral, .inl rfl⟩

theorem readNatural_eq_ok_iff {bound n : Nat} {text : List Char} :
    readNatural bound text = .ok n ↔ IsNumber text n ∧ n ≤ bound := by
  unfold readNatural
  split
  next =>
    rw [isNumber_iff_of_ne_plus fun rest => (List.cons_ne_nil _ rest).symm]
    exact ⟨nofun, fun hall => absurd rfl hall.1.ne_nil⟩
  next =>
    rw [isNumber_plus_iff]
    exact ⟨nofun, fun hall => absurd rfl hall.1.ne_nil⟩
  next digits hsign =>
    rw [isNumber_plus_iff, readDigits_eq_ok_iff_isNumeral (by rintro rfl; exact hsign rfl)]
  next hnil hlone hplus =>
    rw [isNumber_iff_of_ne_plus (by rintro rest rfl; exact hplus rest rfl),
      readDigits_eq_ok_iff_isNumeral (by rintro rfl; exact hnil rfl)]

/-- A positive number is read from a signed numeral only where there is no minus sign. -/
theorem readInt32_eq_ok_iff {n : Nat} (hpos : 0 < n) {text : List Char} :
    readInt32 text = .ok (n : Int) ↔ IsNumber text n ∧ n ≤ 0x7FFFFFFF := by
  have hminus : ∀ rest, ¬ IsNumber ('-' :: rest) n := by
    rintro rest ⟨digits, hnumeral, rfl | heq⟩
    · exact absurd (hnumeral.isDigit '-' List.mem_cons_self) (by decide)
    · exact absurd (List.cons.inj heq).1 (by decide)
  unfold readInt32
  split
  next => exact ⟨nofun, fun hall => absurd hall.1 (hminus [])⟩
  next digits _ =>
    refine ⟨fun hread => ?_, fun hall => absurd hall.1 (hminus digits)⟩
    cases hdigits : readDigits 0x80000000 0 digits with
    | error error => simp [hdigits, Except.map] at hread
    | ok value =>
        rw [hdigits] at hread
        have hnegative : -(value : Int) = n := Except.ok.inj hread
        omega
  next =>
    rw [← readNatural_eq_ok_iff]
    cases readNatural 0x7FFFFFFF text with
    | error error => simp [Except.map]
    | ok value =>
        change (Except.ok (value : Int) : Except NumberError Int) = .ok (n : Int) ↔
          (Except.ok value : Except NumberError Nat) = .ok n
        rw [Except.ok.injEq, Except.ok.injEq, Int.natCast_inj]

theorem of_readInt32_eq_ok {c : Char} {rest : List Char} {n : Int}
    (hread : readInt32 (c :: rest) = .ok n) : c.isDigit = true ∨ c = '+' ∨ c = '-' := by
  by_contra hnone
  obtain ⟨hdigit, hplus, hminus⟩ : ¬ c.isDigit = true ∧ c ≠ '+' ∧ c ≠ '-' :=
    ⟨fun h => hnone (.inl h), fun h => hnone (.inr (.inl h)), fun h => hnone (.inr (.inr h))⟩
  have hnatural : readNatural 0x7FFFFFFF (c :: rest) = .error .invalidDigit := by
    unfold readNatural
    split
    next heq => exact absurd heq (List.cons_ne_nil c rest)
    next heq => exact absurd (List.cons.inj heq).1 hplus
    next heq => exact absurd (List.cons.inj heq).1 hplus
    next => rw [readDigits, digit?_of_not_isDigit hdigit]
  unfold readInt32 at hread
  split at hread
  next heq => exact hminus (List.cons.inj heq).1
  next heq => exact hminus (List.cons.inj heq).1
  next => simp [hnatural, Except.map] at hread

/-! ## Written numbers -/

theorem isDigit_of_mem_toString {n : Nat} {c : Char} (hc : c ∈ (toString n).toList) :
    c.isDigit = true := by
  rw [Nat.toString_eq_repr, Nat.toList_repr] at hc
  exact Nat.isDigit_of_mem_toDigits (by decide) (by decide) hc

theorem isDigit_of_mem_toString_int {n : Int} {c : Char} (hc : c ∈ (toString n).toList) :
    c = '-' ∨ c.isDigit = true := by
  cases n with
  | ofNat n => exact .inr (isDigit_of_mem_toString hc)
  | negSucc n =>
      have hsign : (toString (Int.negSucc n)).toList = '-' :: (toString (n + 1)).toList :=
        String.toList_append
      rw [hsign] at hc
      exact (List.mem_cons.mp hc).imp_right isDigit_of_mem_toString

end ExhaustionGuard.Text
