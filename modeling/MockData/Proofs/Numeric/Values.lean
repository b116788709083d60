import Mathlib.Algebra.Order.Field.Power
import Mathlib.Algebra.Order.Floor.Semifield
import Mathlib.Data.Rat.Floor
import Mathlib.Tactic.FieldSimp
import Mathlib.Tactic.Linarith
import Mathlib.Tactic.Positivity
import MockData.Proofs.Numeric.Nearest
import MockData.Proofs.Numeric.Whole

/-!
# Values of binary64 numbers

`Binary64.value` is the rational number that a binary64 number stands for. An operation gives the
number nearest to the exact result (`Rounds`), so it keeps the order of its arguments, and what lies
between two numbers is not rounded beyond them.
-/

namespace MockData

/-! ### Functions of magnitudes -/

/-- Continues a function of magnitudes to negative numbers. -/
def oddly (f : ℚ → ℚ) (q : ℚ) : ℚ := if q < 0 then -f (-q) else f q

section

variable {f : ℚ → ℚ} {q r : ℚ}

theorem oddly_of_nonneg (nonneg : 0 ≤ q) : oddly f q = f q := if_neg (not_lt.mpr nonneg)

theorem abs_oddly (nonneg : ∀ q, 0 ≤ q → 0 ≤ f q) : |oddly f q| = f |q| := by
  unfold oddly
  split
  · rename_i below
    rw [abs_neg, abs_of_neg below]
    exact abs_of_nonneg (nonneg _ (by linarith))
  · rename_i above
    rw [abs_of_nonneg (not_lt.mp above)]
    exact abs_of_nonneg (nonneg _ (not_lt.mp above))

theorem oddly_mono (nonneg : ∀ q, 0 ≤ q → 0 ≤ f q) (mono : ∀ q r, 0 ≤ q → q ≤ r → f q ≤ f r)
    (ordered : q ≤ r) : oddly f q ≤ oddly f r := by
  unfold oddly
  by_cases below : q < 0
  · by_cases also : r < 0
    · rw [if_pos below, if_pos also, neg_le_neg_iff]
      exact mono _ _ (by linarith) (by linarith)
    · have left := nonneg (-q) (by linarith)
      have right := nonneg r (not_lt.mp also)
      rw [if_pos below, if_neg also]
      linarith
  · have above : ¬r < 0 := fun less => below (lt_of_le_of_lt ordered less)
    rw [if_neg below, if_neg above]
    exact mono _ _ (not_lt.mp below) ordered

/-- The sign of zero does not count. -/
theorem oddly_signed (zero : f 0 = 0) (negative : Bool) (nonneg : 0 ≤ q) :
    oddly f (if negative then -q else q) = if negative then -f q else f q := by
  cases negative
  · exact oddly_of_nonneg nonneg
  · rcases nonneg.eq_or_lt with rfl | positive
    · simp [oddly, zero]
    · simp [oddly, positive]

end

namespace Binary64

def value (x : Binary64) : ℚ := x.units / unitsPerOne

theorem unitsPerOne_pos_rat : (0 : ℚ) < unitsPerOne := by
  exact_mod_cast unitsPerOne_pos

theorem value_le_iff (x y : Binary64) : x.value ≤ y.value ↔ x.units ≤ y.units := by
  rw [value, value, div_le_div_iff_of_pos_right unitsPerOne_pos_rat, Int.cast_le]

theorem le_iff_value (x y : Binary64) : x.le y ↔ x.value ≤ y.value := by
  rw [le, decide_eq_true_iff, value_le_iff]

theorem lt_iff_value (x y : Binary64) : x.lt y ↔ x.value < y.value := by
  rw [lt, decide_eq_true_iff, ← not_le, ← not_le, value_le_iff]

theorem magnitude_eq (x : Binary64) :
    x.magnitude = x.significand * 2 ^ (x.exponent + 1074).toNat := Nat.shiftLeft_eq _ _

theorem magnitude_div_nonneg (n : Nat) : 0 ≤ (n : ℚ) / unitsPerOne :=
  div_nonneg (Nat.cast_nonneg _) unitsPerOne_pos_rat.le

theorem value_of_magnitude (x : Binary64) :
    x.value = if x.negative then -((x.magnitude : ℚ) / unitsPerOne) else x.magnitude / unitsPerOne := by
  unfold value units
  split
  · rw [Int.cast_neg, Int.cast_natCast, neg_div]
  · rw [Int.cast_natCast]

theorem abs_value (x : Binary64) : |x.value| = x.magnitude / unitsPerOne := by
  have nonneg := magnitude_div_nonneg x.magnitude
  rw [value_of_magnitude]
  split
  · rw [abs_neg, abs_of_nonneg nonneg]
  · exact abs_of_nonneg nonneg

theorem value_eq_zero {x : Binary64} (none : x.significand = 0) : x.value = 0 := by
  rw [value_of_magnitude, magnitude_eq, none]
  simp

theorem value_neg (x : Binary64) : x.neg.value = -x.value := by
  rw [value_of_magnitude, value_of_magnitude]
  unfold neg magnitude
  dsimp only
  cases x.negative <;> simp

theorem magnitude_value (x : Binary64) :
    (x.magnitude : ℚ) / unitsPerOne = x.significand * (2 : ℚ) ^ x.exponent := by
  have exponent : x.exponent = ((x.exponent + 1074).toNat : Int) - (unitBits : Int) := by
    have least := x.exponent_ge
    have bits : (unitBits : Int) = 1074 := rfl
    omega
  rw [magnitude_eq, unitsPerOne_eq, exponent]
  rw [zpow_sub₀ two_ne_zero, zpow_natCast, zpow_natCast]
  push_cast
  rw [mul_div_assoc, ← exponent]

theorem value_eq (x : Binary64) :
    x.value = if x.negative then -(x.significand * (2 : ℚ) ^ x.exponent)
      else x.significand * (2 : ℚ) ^ x.exponent := by
  rw [value_of_magnitude, magnitude_value]

/-! ### The nearest number -/

/-- How often the smallest positive number goes into the number nearest to `|q|`. -/
def countOf (q : ℚ) : Nat := nearestCount (q.num.natAbs * 2 ^ unitBits) q.den

theorem natAbs_num_div_den (q : ℚ) : (q.num.natAbs : ℚ) / q.den = |q| := by
  conv_rhs => rw [← Rat.num_div_den q]
  rw [abs_div, Nat.abs_cast, Nat.cast_natAbs, Int.cast_abs]

theorem countOf_eq {q : ℚ} {n d : Nat} (positive : 0 < d) (same : (n : ℚ) / d = |q|) :
    countOf q = nearestCount (n * 2 ^ unitBits) d := by
  have cross : q.num.natAbs * d = n * q.den := by
    rw [← natAbs_num_div_den, div_eq_div_iff (by exact_mod_cast positive.ne')
      (by exact_mod_cast q.den_nz)] at same
    exact_mod_cast same.symm
  have scaled : q.num.natAbs * 2 ^ unitBits * d = n * 2 ^ unitBits * q.den := by
    rw [Nat.mul_right_comm, cross, Nat.mul_right_comm]
  exact Nat.le_antisymm (nearestCount_le q.den_pos positive (Nat.le_of_eq scaled))
    (nearestCount_le positive q.den_pos (Nat.le_of_eq scaled.symm))

theorem countOf_le {q r : ℚ} (ordered : |q| ≤ |r|) : countOf q ≤ countOf r := by
  rw [← natAbs_num_div_den, ← natAbs_num_div_den, div_le_div_iff₀
    (by exact_mod_cast q.den_pos) (by exact_mod_cast r.den_pos)] at ordered
  have cross : q.num.natAbs * r.den ≤ r.num.natAbs * q.den := by exact_mod_cast ordered
  apply nearestCount_le q.den_pos r.den_pos
  rw [Nat.mul_right_comm, Nat.mul_right_comm r.num.natAbs]
  exact Nat.mul_le_mul_right _ cross

theorem countOf_abs (q : ℚ) : countOf |q| = countOf q :=
  Nat.le_antisymm (countOf_le (abs_abs q).le) (countOf_le (abs_abs q).ge)

theorem countOf_value (x : Binary64) : countOf x.value = x.magnitude := by
  have same : (x.magnitude : ℚ) / unitsPerOne = |x.value| := (abs_value x).symm
  have scaled := nearestCount_scale x.magnitude 1 (Nat.two_pow_pos unitBits)
  rw [Nat.one_mul] at scaled
  rw [countOf_eq unitsPerOne_pos same, unitsPerOne_eq, scaled, magnitude_eq]
  exact nearestCount_exact _ x.significand_lt

theorem countOf_zero : countOf 0 = 0 := by
  have none := countOf_value zero
  rw [value_eq_zero (x := zero) rfl] at none
  rw [none]
  rfl

/-- The multiple of a power of two with 53 significant bits that is nearest. -/
def nearest : ℚ → ℚ := oddly fun q => (countOf q : ℚ) / unitsPerOne

theorem abs_nearest (q : ℚ) : |nearest q| = (countOf q : ℚ) / unitsPerOne := by
  unfold nearest
  rw [abs_oddly fun q _ => magnitude_div_nonneg (countOf q), countOf_abs]

theorem nearest_mono {q r : ℚ} (ordered : q ≤ r) : nearest q ≤ nearest r := by
  refine oddly_mono (fun q _ => magnitude_div_nonneg (countOf q)) ?_ ordered
  intro q r nonneg less
  rw [div_le_div_iff_of_pos_right unitsPerOne_pos_rat, Nat.cast_le]
  apply countOf_le
  rwa [abs_of_nonneg nonneg, abs_of_nonneg (nonneg.trans less)]

theorem nearest_signed (negative : Bool) {q : ℚ} (nonneg : 0 ≤ q) :
    nearest (if negative then -q else q) =
      if negative then -((countOf q : ℚ) / unitsPerOne) else countOf q / unitsPerOne :=
  oddly_signed (by simp [countOf_zero]) negative nonneg

theorem nearest_value (x : Binary64) : nearest x.value = x.value := by
  have magnitude := countOf_value x
  rw [← countOf_abs, abs_value] at magnitude
  conv_lhs => rw [value_of_magnitude]
  rw [nearest_signed x.negative (magnitude_div_nonneg _), magnitude, ← value_of_magnitude]

theorem nearest_nonneg {q : ℚ} (nonneg : 0 ≤ q) : 0 ≤ nearest q := by
  have none := nearest_value zero
  rw [value_eq_zero (x := zero) rfl] at none
  exact none.ge.trans (nearest_mono nonneg)

end Binary64

open Binary64

/-! ### Results of operations -/

namespace Rounded

def limit : ℚ := countLimit / unitsPerOne

theorem abs_nearest_lt_iff (q : ℚ) : |nearest q| < limit ↔ countOf q < countLimit := by
  rw [abs_nearest, limit, div_lt_div_iff_of_pos_right unitsPerOne_pos_rat, Nat.cast_lt]

/-- The result is the number nearest to `q`, as long as it is one. -/
structure Rounds (r : Rounded) (q : ℚ) : Prop where
  finite : |nearest q| < limit → ∃ x, r = .finite x ∧ x.value = nearest q
  infinite : limit ≤ |nearest q| → r = .infinite (decide (q < 0))

theorem rounds_round (negative : Bool) (n : Nat) {d : Nat} (positive : 0 < d) {q : ℚ}
    (exact_value : q = if negative then -((n : ℚ) / d) else n / d) :
    Rounds (round negative n d) q := by
  have counts := counts_round negative n positive.ne'
  have nonneg : 0 ≤ (n : ℚ) / d := div_nonneg (Nat.cast_nonneg _) (Nat.cast_nonneg _)
  have count : countOf ((n : ℚ) / d) = nearestCount (n * 2 ^ unitBits) d :=
    countOf_eq positive (abs_of_nonneg nonneg).symm
  have value := nearest_signed negative nonneg
  rw [← exact_value, count] at value
  have same : countOf q = nearestCount (n * 2 ^ unitBits) d := by
    rw [← count, ← countOf_abs, ← countOf_abs ((n : ℚ) / d), exact_value]
    cases negative <;> simp
  constructor
  · intro below
    rw [abs_nearest_lt_iff, same] at below
    obtain ⟨x, finite, negated, magnitude⟩ := counts.finite below
    refine ⟨x, finite, ?_⟩
    rw [value_of_magnitude, negated, magnitude, value]
  · intro above
    rw [← not_lt, abs_nearest_lt_iff, same, Nat.not_lt] at above
    have nonzero : (n : ℚ) / d ≠ 0 := by
      intro none
      rw [← count, none, countOf_zero] at above
      exact absurd (Nat.two_pow_pos _) (Nat.not_lt.mpr above)
    rw [counts.infinite above, exact_value]
    cases negative
    · simp [nonneg]
    · simpa using lt_of_le_of_ne nonneg nonzero.symm

theorem rounds_self (x : Binary64) : Rounds (.finite x) x.value := by
  have bits : x.magnitude < countLimit := by
    have exponent := x.exponent_le
    have canonical := x.canonical
    rw [magnitude_eq, lt_countLimit_iff x.significand_lt (by omega)]
    omega
  refine ⟨fun _ => ⟨x, rfl, (nearest_value x).symm⟩, fun above => ?_⟩
  rw [← not_lt, abs_nearest_lt_iff, countOf_value] at above
  exact absurd bits above

theorem Rounds.value {x : Binary64} {q : ℚ} (rounds : Rounds (.finite x) q) :
    x.value = nearest q ∧ |nearest q| < limit := by
  by_cases below : |nearest q| < limit
  · obtain ⟨y, same, value⟩ := rounds.finite below
    cases same
    exact ⟨value, below⟩
  · exact nomatch rounds.infinite (not_lt.mp below)

theorem Rounds.negative_of_infinite {negative : Bool} {q : ℚ}
    (rounds : Rounds (.infinite negative) q) : negative = decide (q < 0) := by
  by_cases below : |nearest q| < limit
  · obtain ⟨y, same, _⟩ := rounds.finite below
    exact nomatch same
  · exact Rounded.infinite.inj (rounds.infinite (not_lt.mp below))

/-- Only what is nearest to a quotient beyond all numbers is too large. -/
theorem Rounds.of_nearest {r : Rounded} {q : ℚ} (rounds : Rounds r q) {x₁ x₂ : Binary64}
    (above : x₁.value ≤ nearest q) (below : nearest q ≤ x₂.value) :
    ∃ x, r = .finite x ∧ x.value = nearest q := by
  have least := (rounds_self x₁).value.2
  have most := (rounds_self x₂).value.2
  rw [nearest_value, abs_lt] at least most
  exact rounds.finite (abs_lt.mpr ⟨by linarith, by linarith⟩)

theorem Rounds.between {r : Rounded} {q q₁ q₂ : ℚ} {x₁ x₂ : Binary64} (rounds : Rounds r q)
    (low : Rounds (.finite x₁) q₁) (high : Rounds (.finite x₂) q₂) (above : q₁ ≤ q)
    (below : q ≤ q₂) : ∃ x, r = .finite x ∧ x₁.value ≤ x.value ∧ x.value ≤ x₂.value := by
  have least := nearest_mono above
  have most := nearest_mono below
  rw [← low.value.1] at least
  rw [← high.value.1] at most
  obtain ⟨x, finite, value⟩ := rounds.of_nearest least most
  rw [← value] at least most
  exact ⟨x, finite, least, most⟩

/-- What lies between two numbers is rounded to a number between them. -/
theorem Rounds.within {r : Rounded} {q : ℚ} (rounds : Rounds r q) {x₁ x₂ : Binary64}
    (above : x₁.value ≤ q) (below : q ≤ x₂.value) :
    ∃ x, r = .finite x ∧ x₁.value ≤ x.value ∧ x.value ≤ x₂.value :=
  rounds.between (rounds_self x₁) (rounds_self x₂) above below

theorem Rounds.exact_value {r : Rounded} {x : Binary64} (rounds : Rounds r x.value) :
    ∃ y, r = .finite y ∧ y.value = x.value := by
  obtain ⟨y, finite, above, below⟩ := rounds.within (le_refl x.value) (le_refl x.value)
  exact ⟨y, finite, le_antisymm below above⟩

theorem rounds_ofNat (n : Nat) : Rounds (ofNat n) n := by
  apply rounds_round false n Nat.one_pos
  simp

theorem rounds_add (x y : Binary64) : Rounds (x.add y) (x.value + y.value) := by
  have sum : x.value + y.value = ((x.units + y.units : Int) : ℚ) / unitsPerOne := by
    rw [value, value, ← add_div, Int.cast_add]
  unfold add
  dsimp only
  split
  · rename_i none
    rw [sum, none]
    have rounds := rounds_self { zero with negative := x.negative && y.negative }
    rw [value_eq_zero rfl] at rounds
    simpa using rounds
  · apply rounds_round _ _ unitsPerOne_pos
    rw [sum]
    by_cases negative : x.units + y.units < 0
    · simp only [negative, decide_true, if_true]
      rw [← neg_div, Nat.cast_natAbs, abs_of_neg negative, Int.cast_neg, neg_neg]
    · simp only [negative, decide_false, Bool.false_eq_true, if_false]
      rw [Nat.cast_natAbs, abs_of_nonneg (not_lt.mp negative)]

theorem rounds_sub (x y : Binary64) : Rounds (x.sub y) (x.value - y.value) := by
  have rounds := rounds_add x y.neg
  rwa [value_neg, ← sub_eq_add_neg] at rounds

theorem two_pow_div (e : Int) : (2 : ℚ) ^ e.toNat / 2 ^ (-e).toNat = 2 ^ e := by
  have exponent : e = (e.toNat : Int) - (-e).toNat := by omega
  conv_rhs => rw [exponent, zpow_sub₀ two_ne_zero, zpow_natCast, zpow_natCast]

theorem rounds_mul (x y : Binary64) : Rounds (x.mul y) (x.value * y.value) := by
  apply rounds_round _ _ (by rw [Nat.one_shiftLeft]; exact Nat.two_pow_pos _)
  have magnitude : (((x.significand * y.significand) <<< (x.exponent + y.exponent).toNat : Nat) : ℚ) /
      (1 <<< (-(x.exponent + y.exponent)).toNat : Nat) =
        x.significand * (2 : ℚ) ^ x.exponent * (y.significand * (2 : ℚ) ^ y.exponent) := by
    rw [Nat.shiftLeft_eq, Nat.one_shiftLeft]
    push_cast
    rw [mul_div_assoc, two_pow_div, zpow_add₀ two_ne_zero]
    ring
  rw [magnitude, value_eq x, value_eq y]
  cases x.negative <;> cases y.negative <;> simp

theorem rounds_div (x : Binary64) {y : Binary64} (nonzero : y.significand ≠ 0) :
    Rounds (x.div y) (x.value / y.value) := by
  apply rounds_round
  · rw [Nat.shiftLeft_eq]
    exact Nat.mul_pos (Nat.pos_of_ne_zero nonzero) (Nat.two_pow_pos _)
  have magnitude : ((x.significand <<< (x.exponent - y.exponent).toNat : Nat) : ℚ) /
      (y.significand <<< (-(x.exponent - y.exponent)).toNat : Nat) =
        x.significand * (2 : ℚ) ^ x.exponent / (y.significand * (2 : ℚ) ^ y.exponent) := by
    rw [Nat.shiftLeft_eq, Nat.shiftLeft_eq]
    push_cast
    rw [mul_div_mul_comm, two_pow_div, zpow_sub₀ two_ne_zero, mul_div_mul_comm]
  rw [magnitude, value_eq x, value_eq y]
  cases x.negative <;> cases y.negative <;> simp [neg_div, div_neg]

/-- The nearest whole number; a half goes away from zero. -/
def halfAway : ℚ → ℚ := oddly fun q => (⌊q + 1 / 2⌋₊ : ℚ)

theorem halfAway_mono {q r : ℚ} (ordered : q ≤ r) : halfAway q ≤ halfAway r := by
  refine oddly_mono (fun q _ => Nat.cast_nonneg _) ?_ ordered
  intro q r _ less
  exact_mod_cast Nat.floor_le_floor (by linarith)

theorem rounds_roundHalfAway (x : Binary64) : Rounds x.roundHalfAway (halfAway x.value) := by
  apply rounds_round _ _ Nat.one_pos
  have whole : ⌊(x.magnitude : ℚ) / unitsPerOne + 1 / 2⌋₊ =
      (2 * x.magnitude + unitsPerOne) / (2 * unitsPerOne) := by
    rw [← Nat.floor_div_eq_div (K := ℚ)]
    congr 1
    have positive := unitsPerOne_pos_rat
    push_cast
    field_simp
  rw [halfAway, value_of_magnitude, oddly_signed (by norm_num) _ (magnitude_div_nonneg _), whole]
  simp

end Rounded

end MockData
