import ExhaustionGuard.Heap.Mark
import Mathlib.Algebra.Group.Nat.Defs
import Mathlib.Tactic.Common

/-! # Stamps and class tags in one slot

The stamp of an epoch leaves the low bits of a slot free, so a slot can be
stamped without losing its class tag, and tagged without gaining a stamp. Both
fit into a word of 64 bits, with its sign left alone.
-/

namespace ExhaustionGuard.Heap

/-- The epochs that captures can have. -/
def IsEpoch (epoch : Nat) : Prop := 1 ≤ epoch ∧ epoch ≤ epochCount.toNat

theorem isStamped_iff (epoch : Nat) (slot : Int) :
    isStamped (stampOf epoch) slot = true ↔ markBits slot = stampOf epoch := by
  simp [isStamped]

@[simp]
theorem classBits_restamp (epoch : Nat) (slot : Int) :
    classBits (restamp (stampOf epoch) slot) = classBits slot := by
  simp only [classBits, restamp, stampOf, classTagLimit]
  omega

@[simp]
theorem markBits_restamp (epoch : Nat) (slot : Int) :
    markBits (restamp (stampOf epoch) slot) = stampOf epoch := by
  simp only [markBits, classBits, restamp, stampOf, classTagLimit]
  omega

@[simp]
theorem isStamped_restamp (epoch : Nat) (slot : Int) :
    isStamped (stampOf epoch) (restamp (stampOf epoch) slot) = true := by
  rw [isStamped_iff, markBits_restamp]

theorem stampOf_injective {left right : Nat} (heq : stampOf left = stampOf right) :
    left = right := by
  simp only [stampOf] at heq
  omega

/-- A class tag is all that its slot holds. -/
theorem classBits_of_tag {tag : Int} (hnonneg : 0 ≤ tag) (hlimit : tag < classTagLimit) :
    classBits tag = tag :=
  Int.emod_eq_of_lt hnonneg hlimit

theorem markBits_of_tag {tag : Int} (hnonneg : 0 ≤ tag) (hlimit : tag < classTagLimit) :
    markBits tag = 0 := by
  rw [markBits, classBits_of_tag hnonneg hlimit, Int.sub_self]

theorem stampOf_ne_zero {epoch : Nat} (hepoch : IsEpoch epoch) : stampOf epoch ≠ 0 := by
  have hpos := hepoch.1
  simp only [stampOf]
  omega

/-! ## Stamps as words

A slot is read as an integer here; in a word of 64 bits the stamp is shifted into place, and the
class tag is what the mask leaves. -/

/-- The bits of a word that hold a class tag. -/
def classMask : BitVec 64 := 0x7FFFFFFF#64

def stampWord (epoch : Nat) : BitVec 64 := BitVec.ofNat 64 epoch <<< 32

theorem toNat_and_classMask (word : BitVec 64) :
    (word &&& classMask).toNat = word.toNat % 2 ^ 31 := by
  rw [BitVec.toNat_and]
  exact Nat.and_two_pow_sub_one_eq_mod word.toNat 31

theorem toNat_stampWord {epoch : Nat} (hepoch : IsEpoch epoch) :
    (stampWord epoch).toNat = 2 ^ 32 * epoch := by
  have hlt : epoch < 2 ^ 31 := Nat.lt_of_le_of_lt hepoch.2 (by decide)
  rw [stampWord, BitVec.toNat_shiftLeft, BitVec.toNat_ofNat, Nat.shiftLeft_eq]
  omega

theorem classBits_eq_toNat_mod (slot : Int) :
    classBits slot = ((BitVec.ofInt 64 slot).toNat % 2 ^ 31 : Nat) := by
  rw [BitVec.toNat_ofInt, classBits, classTagLimit]
  omega

/-- The class tag and the stamp lie in different bits, so putting them together is their sum. -/
theorem restamp_eq_word {epoch : Nat} (hepoch : IsEpoch epoch) (slot : Int) :
    restamp (stampOf epoch) slot =
      (BitVec.ofInt 64 slot &&& classMask ||| stampWord epoch).toInt := by
  have hlt : epoch < 2 ^ 31 := Nat.lt_of_le_of_lt hepoch.2 (by decide)
  have hlow := Nat.mod_lt (BitVec.ofInt 64 slot).toNat (show 2 ^ 31 > 0 by decide)
  have hword : (BitVec.ofInt 64 slot &&& classMask ||| stampWord epoch).toNat =
      2 ^ 32 * epoch + (BitVec.ofInt 64 slot).toNat % 2 ^ 31 := by
    rw [BitVec.toNat_or, toNat_and_classMask, toNat_stampWord hepoch, Nat.or_comm,
      ← Nat.two_pow_add_eq_or_of_lt (by omega)]
  rw [BitVec.toInt_eq_toNat_of_lt (by omega), hword, restamp, stampOf, classBits_eq_toNat_mod]
  omega

theorem restamp_pos {epoch : Nat} (hepoch : IsEpoch epoch) (slot : Int) :
    0 < restamp (stampOf epoch) slot := by
  have hpos := hepoch.1
  have hbits : 0 ≤ classBits slot := Int.emod_nonneg slot (by decide)
  rw [restamp, stampOf]
  omega

namespace Captures

theorem isEpoch_epoch (captures : Captures) : IsEpoch captures.epoch := by
  have hlt : (captures.made % epochCount).toNat < epochCount.toNat := by
    rw [UInt32.toNat_mod]
    exact Nat.mod_lt _ (by decide)
  exact ⟨Nat.succ_pos _, hlt⟩

end Captures

end ExhaustionGuard.Heap
