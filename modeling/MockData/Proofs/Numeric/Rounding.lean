import MockData.Numeric.Binary64

/-!
# Rounding whole numbers

A whole number that is rounded to a binary64 number keeps its sign and at least its leading power of
two. So zero and one are the only whole numbers that become probabilities. A whole number of 64 bits
is never too large to be rounded.
-/

namespace MockData

theorem div_le_divNearestEven (n d : Nat) : n / d ≤ divNearestEven n d := by
  unfold divNearestEven
  dsimp only
  split
  · exact Nat.le_refl _
  · split <;> omega

theorem divNearestEven_le (n d : Nat) : divNearestEven n d ≤ n / d + 1 := by
  unfold divNearestEven
  dsimp only
  split
  · omega
  · split <;> omega

theorem divNearestEven_one (n : Nat) : divNearestEven n 1 = n := by
  unfold divNearestEven
  rw [Nat.div_one, Nat.mod_one, if_pos (by decide)]

namespace Rounded

/-- A whole number has the exponent at which its leading bit is the top one of the significand. -/
theorem exponentFor_one {n : Nat} (nonzero : n ≠ 0) :
    exponentFor n 1 = (n.log2 : Int) - 52 := by
  have leading : 2 ^ n.log2 ≤ n := Nat.log2_self_le nonzero
  have one : Nat.log2 1 = 0 := by decide
  unfold exponentFor
  simp only [one, Nat.shiftLeft_eq, Nat.one_mul]
  rw [if_pos]
  · omega
  · split
    · rename_i large
      rw [show ((n.log2 : Int) - (0 : Nat) - 53).toNat + 53 = n.log2 by omega]
      exact decide_eq_true leading
    · rename_i small
      have shift : n.log2 + (-((n.log2 : Int) - (0 : Nat) - 53)).toNat = 53 := by omega
      refine decide_eq_true ?_
      calc 2 ^ 53 = 2 ^ n.log2 * 2 ^ (-((n.log2 : Int) - (0 : Nat) - 53)).toNat := by
            rw [← Nat.pow_add, shift]
        _ ≤ n * 2 ^ (-((n.log2 : Int) - (0 : Nat) - 53)).toNat := Nat.mul_le_mul_right _ leading

theorem le_scaled_one {n : Nat} (nonzero : n ≠ 0) :
    0x10000000000000 ≤ scaled n 1 (exponentFor n 1) := by
  have leading : 2 ^ n.log2 ≤ n := Nat.log2_self_le nonzero
  rw [exponentFor_one nonzero]
  unfold scaled
  split
  · refine Nat.le_trans ?_ (div_le_divNearestEven _ _)
    rw [Nat.shiftLeft_eq, Nat.one_mul, Nat.le_div_iff_mul_le (Nat.two_pow_pos _)]
    calc 2 ^ 52 * 2 ^ ((n.log2 : Int) - 52).toNat = 2 ^ n.log2 := by
          rw [← Nat.pow_add, show 52 + ((n.log2 : Int) - 52).toNat = n.log2 by omega]
      _ ≤ n := leading
  · refine Nat.le_trans ?_ (div_le_divNearestEven _ _)
    rw [Nat.div_one, Nat.shiftLeft_eq]
    calc 2 ^ 52 = 2 ^ n.log2 * 2 ^ (-((n.log2 : Int) - 52)).toNat := by
          rw [← Nat.pow_add, show n.log2 + (-((n.log2 : Int) - 52)).toNat = 52 by omega]
      _ ≤ n * 2 ^ (-((n.log2 : Int) - 52)).toNat := Nat.mul_le_mul_right _ leading

theorem scaled_one_le {n : Nat} (nonzero : n ≠ 0) :
    scaled n 1 (exponentFor n 1) ≤ 0x20000000000000 := by
  have top : n < 2 ^ (n.log2 + 1) := Nat.lt_log2_self
  rw [exponentFor_one nonzero]
  unfold scaled
  split
  · have bits : n.log2 + 1 = ((n.log2 : Int) - 52).toNat + 53 := by omega
    have whole : n / 1 <<< ((n.log2 : Int) - 52).toNat < 2 ^ 53 := by
      rw [Nat.one_shiftLeft]
      apply Nat.div_lt_of_lt_mul
      rwa [← Nat.pow_add, ← bits]
    have nearest := divNearestEven_le n (1 <<< ((n.log2 : Int) - 52).toNat)
    omega
  · have bits : n.log2 + 1 + (-((n.log2 : Int) - 52)).toNat = 53 := by omega
    have scaled := Nat.mul_lt_mul_of_pos_right top (Nat.two_pow_pos (-((n.log2 : Int) - 52)).toNat)
    rw [← Nat.pow_add, bits] at scaled
    rw [divNearestEven_one, Nat.shiftLeft_eq]
    exact Nat.le_of_lt scaled

theorem exists_ofParts {negative : Bool} {significand : Nat} {exponent : Int}
    (normal : 0x10000000000000 ≤ significand) (bits : significand < 0x20000000000000)
    (low : -1074 ≤ exponent) (high : exponent ≤ 971) :
    ∃ x, ofParts negative significand exponent = .finite x := by
  unfold ofParts
  rw [dif_pos ⟨bits, low, high, .inl normal⟩]
  exact ⟨_, rfl⟩

theorem ofParts_finite {negative : Bool} {significand : Nat} {exponent : Int} {x : Binary64}
    (finite : ofParts negative significand exponent = .finite x) :
    x.negative = negative ∧ x.significand = significand ∧ x.exponent = exponent := by
  unfold ofParts at finite
  split at finite
  · cases finite
    exact ⟨rfl, rfl, rfl⟩
  · exact nomatch finite

end Rounded

namespace Binary64

theorem isProbability_iff (x : Binary64) :
    x.isProbability ↔ 0 ≤ x.units ∧ x.units ≤ unitsPerOne := by
  have none : zero.units = 0 := by decide +kernel
  have whole : one.units = unitsPerOne := by decide +kernel
  unfold isProbability le
  rw [none, whole, Bool.and_eq_true, decide_eq_true_iff, decide_eq_true_iff]

theorem le_magnitude_of_round {negative : Bool} {n : Nat} {x : Binary64} (nonzero : n ≠ 0)
    (rounded : round negative n 1 = .finite x) :
    x.negative = negative ∧ unitsPerOne <<< n.log2 ≤ x.magnitude := by
  have significand := Rounded.le_scaled_one nonzero
  have exponent := Rounded.exponentFor_one nonzero
  unfold round at rounded
  rw [if_neg nonzero] at rounded
  dsimp only at rounded
  have parts : x.negative = negative ∧ 2 ^ 52 ≤ x.significand ∧
      (n.log2 : Int) - 52 ≤ x.exponent := by
    split at rounded
    · obtain ⟨sign, same, scale⟩ := Rounded.ofParts_finite rounded
      exact ⟨sign, by omega, by omega⟩
    · obtain ⟨sign, same, scale⟩ := Rounded.ofParts_finite rounded
      exact ⟨sign, by omega, by omega⟩
  obtain ⟨sign, top, scale⟩ := parts
  refine ⟨sign, ?_⟩
  unfold magnitude unitsPerOne
  rw [Nat.one_shiftLeft, Nat.shiftLeft_eq, Nat.shiftLeft_eq]
  calc 2 ^ 1074 * 2 ^ n.log2 = 2 ^ (1074 + n.log2) := (Nat.pow_add 2 1074 n.log2).symm
    _ ≤ 2 ^ (52 + (x.exponent + 1074).toNat) :=
        Nat.pow_le_pow_right Nat.two_pos (by omega)
    _ = 2 ^ 52 * 2 ^ (x.exponent + 1074).toNat := Nat.pow_add 2 52 _
    _ ≤ x.significand * 2 ^ (x.exponent + 1074).toNat := Nat.mul_le_mul_right _ top

/-- Rounding takes an integer of 64 bits up to the next power of two at most. -/
theorem exists_ofInt {n : Int} (word : n.natAbs < 0x10000000000000000) :
    ∃ x, ofInt n = .finite x := by
  unfold ofInt round
  by_cases zero : n.natAbs = 0
  · rw [if_pos zero]
    exact ⟨_, rfl⟩
  · have least := Rounded.le_scaled_one zero
    have most := Rounded.scaled_one_le zero
    have exponent := Rounded.exponentFor_one zero
    have bits : n.natAbs.log2 < 64 := (Nat.log2_lt zero).mpr word
    rw [if_neg zero]
    dsimp only
    split
    · exact Rounded.exists_ofParts (Nat.le_refl _) (by decide) (by omega) (by omega)
    · exact Rounded.exists_ofParts least (by omega) (by omega) (by omega)

theorem ofInt_isProbability {n : Int} {x : Binary64} (rounded : ofInt n = .finite x) :
    x.isProbability ↔ 0 ≤ n ∧ n ≤ 1 := by
  have positive : 0 < unitsPerOne := by decide +kernel
  rw [isProbability_iff]
  unfold ofInt at rounded
  by_cases nonzero : n.natAbs = 0
  · obtain rfl : n = 0 := Int.natAbs_eq_zero.mp nonzero
    obtain rfl : zero = x := Rounded.finite.inj rounded
    exact ⟨fun _ => by omega, fun _ => ⟨by decide +kernel, by decide +kernel⟩⟩
  · obtain ⟨sign, large⟩ := le_magnitude_of_round nonzero rounded
    rw [Nat.shiftLeft_eq] at large
    have leading : 1 ≤ 2 ^ n.natAbs.log2 := Nat.one_le_two_pow
    have least := Nat.mul_le_mul_left unitsPerOne leading
    unfold units
    rw [sign]
    by_cases negative : n < 0
    · rw [if_pos (decide_eq_true negative)]
      exact ⟨fun ⟨low, _⟩ => by omega, fun ⟨low, _⟩ => by omega⟩
    · rw [if_neg (by simpa using negative)]
      refine ⟨fun ⟨_, high⟩ => ⟨by omega, ?_⟩, fun ⟨_, high⟩ => ⟨by omega, ?_⟩⟩
      · refine Decidable.byContradiction fun more => ?_
        have doubled : 2 ^ 1 ≤ 2 ^ n.natAbs.log2 :=
          Nat.pow_le_pow_right Nat.two_pos ((Nat.le_log2 nonzero).mpr (by omega))
        have twice := Nat.mul_le_mul_left unitsPerOne doubled
        omega
      · obtain rfl : n = 1 := by omega
        obtain rfl : one = x := Rounded.finite.inj rounded
        decide +kernel

end Binary64

end MockData
