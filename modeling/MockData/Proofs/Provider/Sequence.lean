import MockData.Proofs.Provider.ContextUse

/-!
# Sequences

The index of a record, its multiple of the step and the sum with the start are each taken to the
nearest word. The number is the nearest word to the exact one as long as the multiple is itself a
word, or the start lies on the side that the step leads to. Where the start lies on the other side,
what the multiple loses is missing from the sum (`sequence_exact_iff`, `sequence_short_of_word`).
-/

namespace MockData

namespace Numbers

def IsWord (n : Int) : Prop := -0x8000000000000000 ≤ n ∧ n ≤ 0x7fffffffffffffff

def nearestWord (n : Int) : Int := max (-0x8000000000000000) (min n 0x7fffffffffffffff)

theorem isWord_toInt (k : Int64) : IsWord k.toInt := by
  have least := k.le_toInt
  have most := k.toInt_lt
  unfold IsWord
  omega

theorem toInt_clamp (n : Int) : (clamp n).toInt = nearestWord n := by
  have bounds : IsWord (nearestWord n) := by
    unfold IsWord nearestWord
    omega
  exact Int64.toInt_ofInt_of_le bounds.1 (by have := bounds.2; omega)

section

variable {step : Int64} {index : UInt64}

def offsetAt (step : Int64) (index : UInt64) : Int :=
  nearestWord (nearestWord index.toNat * step.toInt)

theorem toInt_sequenceAt (start step : Int64) (index : UInt64) :
    (sequenceAt start step index).toInt = nearestWord (start.toInt + offsetAt step index) := by
  simp only [sequenceAt, toInt_clamp, offsetAt]

theorem nearestWord_index (small : index.toNat < 0x8000000000000000) :
    nearestWord index.toNat = index.toNat := by
  unfold nearestWord
  omega

theorem nearestWord_large_index (large : 0x8000000000000000 ≤ index.toNat) :
    nearestWord index.toNat = 0x7fffffffffffffff := by
  unfold nearestWord
  omega

theorem offsetAt_small (small : index.toNat < 0x8000000000000000) :
    offsetAt step index = nearestWord (index.toNat * step.toInt) := by
  rw [offsetAt, nearestWord_index small]

/-- With a positive step the first clamp makes no difference: the second one cuts off as much. -/
theorem offsetAt_up (up : 0 < step.toInt) :
    offsetAt step index = nearestWord (index.toNat * step.toInt) := by
  by_cases small : index.toNat < 0x8000000000000000
  · exact offsetAt_small small
  · have far : (index.toNat : Int) * 1 ≤ index.toNat * step.toInt :=
      Int.mul_le_mul_of_nonneg_left up (by omega)
    rw [offsetAt, nearestWord_large_index (by omega)]
    unfold nearestWord
    omega

/-- The same holds for a step down by two or more. -/
theorem offsetAt_down (down : step.toInt ≤ -2) :
    offsetAt step index = nearestWord (index.toNat * step.toInt) := by
  by_cases small : index.toNat < 0x8000000000000000
  · exact offsetAt_small small
  · have far : (index.toNat : Int) * step.toInt ≤ index.toNat * -2 :=
      Int.mul_le_mul_of_nonneg_left down (by omega)
    rw [offsetAt, nearestWord_large_index (by omega)]
    unfold nearestWord
    omega

theorem offsetAt_minus_one (one : step.toInt = -1) (large : 0x8000000000000000 ≤ index.toNat) :
    offsetAt step index = -0x7fffffffffffffff := by
  rw [offsetAt, nearestWord_large_index large, one]
  decide

end

/-- When the number of a record is exact: the multiple of the step is a word, or the start lies on
the side that the step leads to. Indices beyond the signed words count as the last one, which shows
for the step `-1` alone. -/
def Exact (start step : Int) (index : Nat) : Prop :=
  (index < 0x8000000000000000 ∧ IsWord (index * step)) ∨ (0 < step ∧ 0 ≤ start) ∨
    (step < 0 ∧ start < 0) ∨ (step < 0 ∧ start = 0 ∧ (index < 0x8000000000000000 ∨ step ≠ -1))

theorem sequenceAt_exact_iff (start : Int64) {step : Int64} (nonzero : step ≠ 0)
    (index : UInt64) :
    (sequenceAt start step index).toInt = nearestWord (start.toInt + index.toNat * step.toInt) ↔
      Exact start.toInt step.toInt index.toNat := by
  have word := isWord_toInt start
  have moves : step.toInt ≠ 0 := fun same => nonzero (Int64.toInt_inj.mp same)
  rw [toInt_sequenceAt]
  unfold Exact
  rcases Int.lt_or_gt_of_ne moves with down | up
  · by_cases one : step.toInt = -1
    · by_cases small : index.toNat < 0x8000000000000000
      · rw [offsetAt_small small, one]
        unfold IsWord nearestWord at *
        omega
      · rw [offsetAt_minus_one one (by omega), one]
        unfold IsWord nearestWord at *
        omega
    · rw [offsetAt_down (by omega)]
      have far : (index.toNat : Int) * step.toInt ≤ index.toNat * -2 :=
        Int.mul_le_mul_of_nonneg_left (by omega) (by omega)
      generalize (index.toNat : Int) * step.toInt = multiple at *
      unfold IsWord nearestWord at *
      omega
  · rw [offsetAt_up up]
    have far : (index.toNat : Int) * 1 ≤ index.toNat * step.toInt :=
      Int.mul_le_mul_of_nonneg_left up (by omega)
    generalize (index.toNat : Int) * step.toInt = multiple at *
    unfold IsWord nearestWord at *
    omega

/-- Wherever the number is not exact, it has not come far enough. -/
theorem sequenceAt_between (start : Int64) {step : Int64} (nonzero : step ≠ 0) (index : UInt64) :
    let exact_number := start.toInt + index.toNat * step.toInt
    let number := (sequenceAt start step index).toInt
    (0 < step.toInt → start.toInt ≤ number ∧ number ≤ nearestWord exact_number) ∧
      (step.toInt < 0 → nearestWord exact_number ≤ number ∧ number ≤ start.toInt) := by
  intro exact_number number
  have word := isWord_toInt start
  have moves : step.toInt ≠ 0 := fun same => nonzero (Int64.toInt_inj.mp same)
  have value : number = nearestWord (start.toInt + offsetAt step index) :=
    toInt_sequenceAt start step index
  refine ⟨fun up => ?_, fun down => ?_⟩
  · have forward : 0 ≤ (index.toNat : Int) * step.toInt := Int.mul_nonneg (by omega) (by omega)
    rw [offsetAt_up up] at value
    unfold IsWord nearestWord at *
    omega
  · have back : (index.toNat : Int) * step.toInt ≤ 0 :=
      Int.mul_nonpos_of_nonneg_of_nonpos (by omega) (by omega)
    by_cases large : step.toInt = -1 ∧ 0x8000000000000000 ≤ index.toNat
    · have minus : (index.toNat : Int) * step.toInt = -index.toNat := by
        rw [large.1]
        omega
      rw [offsetAt_minus_one large.1 large.2] at value
      unfold IsWord nearestWord at *
      omega
    · have offset : offsetAt step index = nearestWord (index.toNat * step.toInt) := by
        by_cases one : step.toInt = -1
        · exact offsetAt_small (by omega)
        · exact offsetAt_down (by omega)
      rw [offset] at value
      unfold IsWord nearestWord at *
      omega

variable {σ : Type} [RandomSource σ]

theorem sequence_accepted {args : Option Json} {a : Arguments}
    (accepted : Arguments.read sequenceParameters args = .ok a)
    (nonzero : (a.int? "step").getD 1 ≠ 0) (c : RecordContext) (s : σ) :
    sequence c args s =
      (.ok (.ofInt64 (sequenceAt ((a.int? "start").getD 1) ((a.int? "step").getD 1) c.index)), s) := by
  rw [sequence, Provider.planned_accepted accepted]
  dsimp only
  rw [if_neg nonzero]
  rfl

/-- For a step other than zero, every record has a number and nothing is drawn for it. Exactly when
the multiple of the step is a word, or the start lies on the side that the step leads to, the number
is the nearest word to `start + index * step`. Otherwise it lies between the start and that. -/
theorem sequence_exact_iff {args : Option Json} {a : Arguments}
    (accepted : Arguments.read sequenceParameters args = .ok a) :
    let start := (a.int? "start").getD 1
    let step := (a.int? "step").getD 1
    step ≠ 0 → ∀ (c : RecordContext) (s : σ),
      let exact_number := start.toInt + c.index.toNat * step.toInt
      ∃ n : Int64, sequence c args s = (.ok (.ofInt64 n), s) ∧
        (n.toInt = nearestWord exact_number ↔ Exact start.toInt step.toInt c.index.toNat) ∧
        (0 < step.toInt → start.toInt ≤ n.toInt ∧ n.toInt ≤ nearestWord exact_number) ∧
        (step.toInt < 0 → nearestWord exact_number ≤ n.toInt ∧ n.toInt ≤ start.toInt) := by
  intro start step nonzero c s exact_number
  refine ⟨sequenceAt start step c.index, sequence_accepted accepted nonzero c s, ?_, ?_⟩
  · exact sequenceAt_exact_iff start nonzero c.index
  · exact sequenceAt_between start nonzero c.index

theorem sequence_exact_iff_up :
    let args := some (Json.object [("start", .ofInt64 5), ("step", .ofInt64 Int64.maxValue)])
    let c : RecordContext := ⟨3, .enUS, .midnight 0⟩
    ∀ s : Script, ∃ n : Int64, sequence c args s = (.ok (.ofInt64 n), s) ∧
      n.toInt = 0x7fffffffffffffff := by
  intro args c s
  obtain ⟨accepted, start, step⟩ :=
    Arguments.read_integers (show "start" ≠ "step" by decide) 5 Int64.maxValue
  have result := sequence_exact_iff (σ := Script) accepted
  simp only [start, step, Option.getD_some] at result
  obtain ⟨n, drawn, exact_iff, _⟩ := result (by decide) c s
  refine ⟨n, drawn, ?_⟩
  rw [exact_iff.mpr (.inr (.inl ⟨by decide, by decide⟩))]
  decide

/-- From the least word, two steps of the largest one lead to a word. The number is another. -/
theorem sequence_short_of_word :
    let args := some (Json.object
      [("start", .ofInt64 Int64.minValue), ("step", .ofInt64 Int64.maxValue)])
    let c : RecordContext := ⟨2, .enUS, .midnight 0⟩
    let exact_number := Int64.minValue.toInt + c.index.toNat * Int64.maxValue.toInt
    exact_number = 0x7ffffffffffffffe ∧
      ∀ s : Script, sequence c args s = (.ok (.ofInt64 (-1)), s) := by
  intro args c exact_number
  refine ⟨by decide, fun s => ?_⟩
  obtain ⟨accepted, start, step⟩ :=
    Arguments.read_integers (show "start" ≠ "step" by decide) Int64.minValue Int64.maxValue
  have number : sequenceAt Int64.minValue Int64.maxValue 2 = -1 := by decide
  rw [sequence_accepted accepted (by rw [step]; decide), start, step]
  simp only [Option.getD_some, c, number]

end Numbers

end MockData
