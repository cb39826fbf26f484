import ExhaustionGuard.Proofs.MemoryReport.Lines

/-! # When a hint is given

Some areas have a limit that can be raised, and a hint is due when 95 hundredths
of it are committed. The hundredths are compared in saturating arithmetic. This
is exact as long as one of the two products fits its word; of products that are
both too large for it nothing is told apart any more, and the hint is given in
any case.
-/

namespace ExhaustionGuard.MemoryReport

variable {n m : Int}

/-- The greatest number of a signed 64-bit word. -/
def greatestWord : Int := 0x7FFFFFFFFFFFFFFF

/-- A positive number is told from a smaller one as long as that is below the greatest word. -/
theorem saturate_le_saturate_iff (hpos : 0 < n) :
    saturate n ≤ saturate m ↔ n ≤ m ∨ greatestWord ≤ m ∧ m < n := by
  unfold saturate greatestWord
  omega

/-- The area has a limit, and 95 hundredths of it are committed. -/
def IsNearlyFull (usage : MemoryUsage) : Prop :=
  0 < usage.maximum ∧ 95 * usage.maximum ≤ 100 * usage.committed

/-- Less than 95 hundredths of a limit are committed, but neither product fits a word. -/
def IsBlurred (usage : MemoryUsage) : Prop :=
  greatestWord < 100 * usage.committed ∧ 100 * usage.committed < 95 * usage.maximum

instance (usage : MemoryUsage) : Decidable (IsNearlyFull usage) :=
  inferInstanceAs (Decidable (_ ∧ _))

instance (usage : MemoryUsage) : Decidable (IsBlurred usage) :=
  inferInstanceAs (Decidable (_ ∧ _))

theorem nearLimit_iff (usage : MemoryUsage) :
    nearLimit usage = true ↔ IsNearlyFull usage ∨ IsBlurred usage := by
  rw [nearLimit, Bool.and_eq_true, decide_eq_true_eq, decide_eq_true_eq]
  by_cases hlimit : 0 < usage.maximum
  · have hpos : 0 < usage.maximum * 95 := by omega
    -- the greatest word itself is no multiple of a hundred
    rw [saturate_le_saturate_iff hpos, IsNearlyFull, IsBlurred, greatestWord]
    omega
  · -- an area without a limit is not blurred either
    unfold IsNearlyFull IsBlurred greatestWord
    omega

/-- The names of the areas with a limit that can be raised. -/
def IsAdvised (name : String) : Prop :=
  name = "Heap memory" ∨ name = "Metaspace" ∨ name = "Compressed Class Space"

instance (name : String) : Decidable (IsAdvised name) :=
  inferInstanceAs (Decidable (_ ∨ _ ∨ _))

theorem isSome_advice?_iff (name : String) : (advice? name).isSome = true ↔ IsAdvised name := by
  unfold advice? IsAdvised
  split
  next => simp
  next => simp
  next => simp
  next hheap hmeta hclasses =>
    simp only [Option.isSome_none, Bool.false_eq_true, false_iff, not_or]
    exact ⟨hheap, hmeta, hclasses⟩

theorem isSome_hint?_iff (name : String) (usage : MemoryUsage) :
    (hint? name usage).isSome = true ↔
      IsAdvised name ∧ (IsNearlyFull usage ∨ IsBlurred usage) := by
  rw [← isSome_advice?_iff, ← nearLimit_iff, hint?]
  cases nearLimit usage <;> simp

/-- The lines about an area are that of its usage and one more just if there is a hint. -/
theorem areaLines_eq (name : String) (usage : MemoryUsage) :
    areaLines name usage =
      usageLine name usage :: ((hint? name usage).map hintLine).toList := by
  rw [areaLines]
  cases hint? name usage <;> rfl

/-- Below the usage of an area stands a hint just if its limit can be raised and 95 hundredths of it
are committed, or could not be told from what is committed. Otherwise nothing stands there. -/
theorem areaLines_hinted_iff (name : String) (usage : MemoryUsage) :
    ((∃ hint, advice? name = some hint ∧
        areaLines name usage = [usageLine name usage, hintLine hint]) ↔
      IsAdvised name ∧ (IsNearlyFull usage ∨ IsBlurred usage)) ∧
    (areaLines name usage = [usageLine name usage] ↔
      ¬ (IsAdvised name ∧ (IsNearlyFull usage ∨ IsBlurred usage))) := by
  rw [← isSome_hint?_iff, areaLines_eq]
  cases hhint : hint? name usage with
  | none => simp
  | some hint =>
      have hadvice : advice? name = some hint := advice?_of_hint? hhint
      simp [hadvice]

/-- An area of which hardly more than a hundredth is committed, and yet there is a hint. -/
theorem areaLines_of_blurred :
    IsAdvised "Heap memory" ∧ ¬ IsNearlyFull ⟨0, 1, 92233720368547759, greatestWord⟩ ∧
      areaLines "Heap memory" ⟨0, 1, 92233720368547759, greatestWord⟩ =
        [usageLine "Heap memory" ⟨0, 1, 92233720368547759, greatestWord⟩,
          hintLine ("Heap memory is over 95% full. To increase it, increase the container " ++
            "size.")] := by
  decide

end ExhaustionGuard.MemoryReport
