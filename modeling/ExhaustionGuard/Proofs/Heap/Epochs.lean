import ExhaustionGuard.Heap.Capture
import ExhaustionGuard.Host.InMemory
import ExhaustionGuard.Proofs.Heap.Marks
import Mathlib.Data.List.Nodup

/-! # Epochs of consecutive captures

The counter of captures starts again after `2 ^ 32` of them, their epochs after
`2 ^ 31 - 1`. Two rounds of epochs fall two captures short of a round of the
counter, so epochs are spread as far as there are any, but for those of the last
two captures before the counter starts again: the next two have them as well.
-/

namespace ExhaustionGuard.Heap

/-! ## Stamps of epochs -/

theorem stampOf_pos {epoch : Nat} (hepoch : IsEpoch epoch) : 0 < stampOf epoch := by
  have hpos := hepoch.1
  simp only [stampOf]
  omega

/-- The stamp fits into a word with its sign left alone. -/
theorem toInt_stampWord {epoch : Nat} (hepoch : IsEpoch epoch) :
    (stampWord epoch).toInt = stampOf epoch := by
  have hlt : epoch < 2 ^ 31 := Nat.lt_of_le_of_lt hepoch.2 (by decide)
  have hword := toNat_stampWord hepoch
  rw [BitVec.toInt_eq_toNat_of_lt (by omega), hword, stampOf]
  omega

/-- No bit of the stamp is one of a class tag. -/
theorem stampWord_and_classMask {epoch : Nat} (hepoch : IsEpoch epoch) :
    stampWord epoch &&& classMask = 0#64 := by
  apply BitVec.eq_of_toNat_eq
  rw [toNat_and_classMask, toNat_stampWord hepoch, BitVec.toNat_ofNat]
  omega

/-- An object that a capture has marked counts as marked by another one just if both have the same
epoch. -/
theorem isStamped_restamp_iff (epoch other : Nat) (slot : Int) :
    isStamped (stampOf epoch) (restamp (stampOf other) slot) = true ↔ epoch = other := by
  rw [isStamped_iff, markBits_restamp]
  exact ⟨fun heq => (stampOf_injective heq).symm, fun heq => by rw [heq]⟩

namespace Captures

/-- The counter after so many captures. -/
def after : Captures → Nat → Captures
  | captures, 0 => captures
  | captures, count + 1 => captures.next.after count

/-- The epochs of so many captures. -/
def epochs (captures : Captures) (count : Nat) : List Nat :=
  (List.range count).map fun age => (captures.after age).epoch

theorem after_add (captures : Captures) (early late : Nat) :
    captures.after (early + late) = (captures.after early).after late := by
  induction early generalizing captures with
  | zero => rw [Nat.zero_add, after]
  | succ early ih => rw [Nat.add_right_comm, after, ih, after]

theorem toNat_made_after (captures : Captures) (count : Nat) :
    (captures.after count).made.toNat = (captures.made.toNat + count) % 2 ^ 32 := by
  induction count generalizing captures with
  | zero => exact (Nat.mod_eq_of_lt captures.made.toNat_lt).symm
  | succ count ih =>
      have hnext : captures.next.made.toNat = (captures.made.toNat + 1) % 2 ^ 32 := rfl
      rw [after, ih, hnext, Nat.mod_add_mod, Nat.add_assoc, Nat.add_comm 1]

/-- A round of the counter is two rounds of epochs and two more. -/
theorem epoch_eq_ite (captures : Captures) :
    captures.epoch =
      (if captures.made.toNat < 2 ^ 31 - 1 then captures.made.toNat
        else if captures.made.toNat < 2 ^ 32 - 2 then captures.made.toNat - (2 ^ 31 - 1)
        else captures.made.toNat - (2 ^ 32 - 2)) + 1 := by
  have hcount : epochCount.toNat = 2 ^ 31 - 1 := rfl
  have hmade : captures.made.toNat < 2 ^ 32 := captures.made.toNat_lt
  rw [epoch, UInt32.toNat_mod, hcount]
  split
  next hfirst => rw [Nat.mod_eq_of_lt hfirst]
  split <;> omega

/-- An epoch comes back too soon only where the counter starts again, and there after two
captures. -/
theorem epoch_after_eq_iff (captures : Captures) {age : Nat} (hpos : 0 < age)
    (hyoung : age < epochCount.toNat) :
    (captures.after age).epoch = captures.epoch ↔
      age = 2 ∧ 2 ^ 32 - 2 ≤ captures.made.toNat := by
  have hcount : epochCount.toNat = 2 ^ 31 - 1 := rfl
  have hmade : captures.made.toNat < 2 ^ 32 := captures.made.toNat_lt
  rw [epoch_eq_ite, epoch_eq_ite, toNat_made_after]
  rcases Nat.lt_or_ge (captures.made.toNat + age) (2 ^ 32) with hbefore | hagain
  · rw [Nat.mod_eq_of_lt hbefore]
    split_ifs <;> omega
  · have hwrapped : (captures.made.toNat + age) % 2 ^ 32 = captures.made.toNat + age - 2 ^ 32 := by
      omega
    rw [hwrapped]
    split_ifs <;> omega

/-- As long as the counter does not start again, epochs are as far apart as there are any. -/
theorem epoch_after_ne (captures : Captures) {early late : Nat} (horder : early < late)
    (hlate : late < epochCount.toNat)
    (hwithin : captures.made.toNat + epochCount.toNat ≤ 2 ^ 32) :
    (captures.after early).epoch ≠ (captures.after late).epoch := by
  intro hsame
  have hlater : captures.after late = (captures.after early).after (late - early) := by
    rw [← after_add, Nat.add_sub_cancel' (Nat.le_of_lt horder)]
  rw [hlater] at hsame
  obtain ⟨hage, hmade⟩ :=
    (epoch_after_eq_iff (captures.after early) (by omega) (by omega)).mp hsame.symm
  rw [toNat_made_after] at hmade
  omega

theorem nodup_epochs_iff (captures : Captures) :
    (captures.epochs epochCount.toNat).Nodup ↔
      captures.made.toNat + epochCount.toNat ≤ 2 ^ 32 := by
  have hcount : epochCount.toNat = 2 ^ 31 - 1 := rfl
  have hmade : captures.made.toNat < 2 ^ 32 := captures.made.toNat_lt
  rw [epochs, List.nodup_map_iff_inj_on List.nodup_range]
  constructor
  · intro hdistinct
    by_contra hcrosses
    -- one of the last two captures before the counter starts again is among them
    have hlast : 2 ^ 32 - 2 ≤ (captures.after (2 ^ 32 - 2 - captures.made.toNat)).made.toNat := by
      rw [toNat_made_after]
      omega
    have hrepeats := (epoch_after_eq_iff _ (by decide : 0 < 2) (by omega)).mpr ⟨rfl, hlast⟩
    rw [← after_add] at hrepeats
    have hsame := hdistinct _ (List.mem_range.mpr (by omega)) _ (List.mem_range.mpr (by omega))
      hrepeats
    omega
  · intro hwithin first hfirst second hsecond hsame
    rcases Nat.lt_trichotomy first second with hbefore | heq | hbehind
    · exact absurd hsame (captures.epoch_after_ne hbefore (List.mem_range.mp hsecond) hwithin)
    · exact heq
    · exact absurd hsame.symm (captures.epoch_after_ne hbehind (List.mem_range.mp hfirst) hwithin)

/-- As many consecutive captures as there are epochs have different ones just if the counter does
not start again among them. All are epochs whose stamps leave the class tags and the sign alone, and
a mark younger than that is taken for a new one just if it was made by one of the last two captures
before the counter started again, and two captures ago. -/
theorem epochs_spread (captures : Captures) :
    (∀ count, ∀ epoch ∈ captures.epochs count,
      IsEpoch epoch ∧ 0 < stampOf epoch ∧ (stampWord epoch).toInt = stampOf epoch ∧
        stampWord epoch &&& classMask = 0#64) ∧
      ((captures.epochs epochCount.toNat).Nodup ↔
        captures.made.toNat + epochCount.toNat ≤ 2 ^ 32) ∧
      ∀ age slot, 0 < age → age < epochCount.toNat →
        (isStamped (stampOf (captures.after age).epoch)
            (restamp (stampOf captures.epoch) slot) = true ↔
          age = 2 ∧ 2 ^ 32 - 2 ≤ captures.made.toNat) := by
  refine ⟨fun count epoch hmem => ?_, nodup_epochs_iff captures, fun age slot hpos hyoung => ?_⟩
  · obtain ⟨age, -, rfl⟩ := List.mem_map.mp hmem
    have hepoch := (captures.after age).isEpoch_epoch
    exact ⟨hepoch, stampOf_pos hepoch, toInt_stampWord hepoch, stampWord_and_classMask hepoch⟩
  · rw [isStamped_restamp_iff]
    exact epoch_after_eq_iff captures hpos hyoung

/-- The mark of the last capture but one is taken for a new one when the counter has started
again. -/
theorem epochs_spread_until_the_end :
    let captures : Captures := ⟨0xFFFFFFFE⟩
    (0 < 2 ∧ 2 < epochCount.toNat) ∧ 2 ^ 32 - 2 ≤ captures.made.toNat ∧
      isStamped (stampOf (captures.after 2).epoch) (restamp (stampOf captures.epoch) 7) = true := by
  intro captures
  have hlate : 2 ^ 32 - 2 ≤ captures.made.toNat := by decide
  exact ⟨by decide, hlate,
    ((epochs_spread captures).2.2 2 7 (by decide) (by decide)).mpr ⟨rfl, hlate⟩⟩

/-- What so many captures with the epochs of one counter come to, one after another over a host. -/
def outcomes : Captures → Nat → InMemory → List (Except HostFault (List (String × ClassStats)))
  | _, 0, _ => []
  | captures, count + 1, host =>
      let (result, later) := (capture InMemory.heap captures.epoch).finish host.beforeCapture
      result.map Histogram.entries :: captures.next.outcomes count later

/-- A heap with one object, whose second walk breaks off before it reaches the object. -/
def missedOnce : InMemory :=
  { InMemory.empty with
    graph := { Graph.empty.extend ["La;".toUTF8.toList] [⟨0, 8, [], .none, false⟩] with
      roots := [0] }
    plan := [⟨.followReferences, .failed (.unavailable "walk"), some 2, .none⟩] }

/-- Epochs are not different in every run of as many captures as there are epochs, and a mark can be
taken for a new one after two captures. The third capture then leaves out what the first one
counted. -/
theorem epochs_come_back :
    let captures : Captures := ⟨0xFFFFFFFE⟩
    captures.epochs 3 = [1, 2, 1] ∧ ¬ (captures.epochs epochCount.toNat).Nodup ∧
      isStamped (stampOf (captures.after 2).epoch) (restamp (stampOf captures.epoch) 0) = true ∧
      captures.outcomes 3 missedOnce =
        [.ok [("La;", ⟨1, 8⟩)], .error (.failed (.unavailable "walk")), .ok []] ∧
      Captures.none.outcomes 3 missedOnce =
        [.ok [("La;", ⟨1, 8⟩)], .error (.failed (.unavailable "walk")), .ok [("La;", ⟨1, 8⟩)]] := by
  intro captures
  have hcrosses : ¬ captures.made.toNat + epochCount.toNat ≤ 2 ^ 32 := by decide
  exact ⟨by decide, fun hdistinct => hcrosses ((nodup_epochs_iff captures).mp hdistinct), by decide,
    by decide +kernel, by decide +kernel⟩

end Captures

end ExhaustionGuard.Heap
