import Mathlib.Algebra.Ring.Nat
import MockData.Proofs.Numeric.Rounding

/-!
# Rounding to the nearest number

What `Binary64.round` gives for `n / d`, counted in the smallest positive number: the multiple of a
power of two that is nearest, where the power leaves 53 significant bits (`nearestCount`). If that
is too large for a binary64 number the result is infinite. The count grows with the quotient, and is
the quotient itself if 53 bits are enough for it.
-/

namespace MockData

/-! ### Quotients to the nearest whole number -/

theorem divNearestEven_scale (n d : Nat) {k : Nat} (positive : 0 < k) :
    divNearestEven (n * k) (d * k) = divNearestEven n d := by
  have quotient : n * k / (d * k) = n / d := Nat.mul_div_mul_right n d positive
  have rest : n * k % (d * k) = n % d * k := Nat.mul_mod_mul_right k n d
  have below : 2 * (n % d * k) < d * k ↔ 2 * (n % d) < d := by
    rw [← Nat.mul_assoc, Nat.mul_lt_mul_right positive]
  have above : d * k < 2 * (n % d * k) ↔ d < 2 * (n % d) := by
    rw [← Nat.mul_assoc, Nat.mul_lt_mul_right positive]
  unfold divNearestEven
  simp only [quotient, rest, below, above]

theorem divNearestEven_mul (n : Nat) {d : Nat} (positive : 0 < d) :
    divNearestEven (n * d) d = n := by
  have exact_quotient := divNearestEven_scale n 1 positive
  rwa [Nat.one_mul, divNearestEven_one] at exact_quotient

theorem divNearestEven_mono {m n : Nat} (d : Nat) (ordered : m ≤ n) :
    divNearestEven m d ≤ divNearestEven n d := by
  rcases Nat.lt_or_eq_of_le (Nat.div_le_div_right ordered : m / d ≤ n / d) with less | same
  · calc divNearestEven m d ≤ m / d + 1 := divNearestEven_le m d
      _ ≤ n / d := less
      _ ≤ divNearestEven n d := div_le_divNearestEven n d
  · -- With the same whole part, the remainders are in order.
    have whole := Nat.div_add_mod m d
    have other := Nat.div_add_mod n d
    rw [same] at whole
    unfold divNearestEven
    dsimp only
    rw [same]
    repeat' split
    all_goals omega

/-! ### Counts with 53 significant bits -/

def excessBits (n d : Nat) : Nat := (n / d).log2 - 52

/-- The multiple of the last of 53 bits that is nearest to `n / d`. -/
def nearestCount (n d : Nat) : Nat :=
  divNearestEven n (d * 2 ^ excessBits n d) * 2 ^ excessBits n d

section

variable {m n d s : Nat}

theorem lt_excessBits (positive : 0 < d) : n < d * 2 ^ (53 + excessBits n d) := by
  have top : n / d < 2 ^ ((n / d).log2 + 1) := Nat.lt_log2_self
  have enough : 2 ^ ((n / d).log2 + 1) ≤ 2 ^ (53 + excessBits n d) := by
    apply Nat.pow_le_pow_right Nat.two_pos
    unfold excessBits
    omega
  rw [Nat.mul_comm]
  exact Nat.lt_mul_of_div_lt (Nat.lt_of_lt_of_le top enough) positive

theorem excessBits_le (excess : 0 < excessBits n d) :
    d * 2 ^ (52 + excessBits n d) ≤ n := by
  have bits : 52 + excessBits n d = (n / d).log2 := by
    unfold excessBits at *
    omega
  have nonzero : n / d ≠ 0 := by
    intro zero
    simp [excessBits, zero] at excess
  rw [bits, Nat.mul_comm]
  exact Nat.mul_le_of_le_div d _ n (Nat.log2_self_le nonzero)

theorem excessBits_eq (positive : 0 < d) (below : n < d * 2 ^ (53 + s))
    (above : 0 < s → d * 2 ^ (52 + s) ≤ n) : excessBits n d = s := by
  have small : n / d < 2 ^ (53 + s) := Nat.div_lt_of_lt_mul below
  unfold excessBits
  by_cases excess : 0 < s
  · have large : 2 ^ (52 + s) ≤ n / d := (Nat.le_div_iff_mul_le positive).mpr (by
      rw [Nat.mul_comm]
      exact above excess)
    have nonzero : n / d ≠ 0 := by
      have power := Nat.two_pow_pos (52 + s)
      omega
    have least := (Nat.le_log2 nonzero).mpr large
    have most := (Nat.log2_lt nonzero).mpr small
    omega
  · obtain rfl : s = 0 := by omega
    by_cases nonzero : n / d = 0
    · rw [nonzero]
      rfl
    · have most := (Nat.log2_lt nonzero).mpr small
      omega

theorem excessBits_mono (d : Nat) (ordered : m ≤ n) : excessBits m d ≤ excessBits n d := by
  have quotients : m / d ≤ n / d := Nat.div_le_div_right ordered
  unfold excessBits
  by_cases zero : m / d = 0
  · rw [zero]
    exact Nat.zero_le _
  · have nonzero : n / d ≠ 0 := fun none => zero (Nat.le_zero.mp (none ▸ quotients))
    have leading : (m / d).log2 ≤ (n / d).log2 :=
      (Nat.le_log2 nonzero).mpr (Nat.le_trans (Nat.log2_self_le zero) quotients)
    omega

theorem nearest_significand_le (positive : 0 < d) :
    divNearestEven n (d * 2 ^ excessBits n d) ≤ 0x20000000000000 := by
  have small : n / (d * 2 ^ excessBits n d) < 2 ^ 53 := by
    apply Nat.div_lt_of_lt_mul
    rw [Nat.mul_assoc, ← Nat.pow_add, Nat.add_comm]
    exact lt_excessBits positive
  have nearest := divNearestEven_le n (d * 2 ^ excessBits n d)
  omega

theorem le_nearest_significand (positive : 0 < d) (excess : 0 < excessBits n d) :
    0x10000000000000 ≤ divNearestEven n (d * 2 ^ excessBits n d) := by
  refine Nat.le_trans ?_ (div_le_divNearestEven _ _)
  rw [Nat.le_div_iff_mul_le (Nat.mul_pos positive (Nat.two_pow_pos _))]
  calc 2 ^ 52 * (d * 2 ^ excessBits n d) = d * 2 ^ (52 + excessBits n d) := by
        rw [Nat.mul_left_comm, Nat.pow_add]
    _ ≤ n := excessBits_le excess

theorem nearestCount_scale (n d : Nat) {k : Nat} (positive : 0 < k) :
    nearestCount (n * k) (d * k) = nearestCount n d := by
  have excess : excessBits (n * k) (d * k) = excessBits n d := by
    rw [excessBits, Nat.mul_div_mul_right n d positive, excessBits]
  rw [nearestCount, excess, Nat.mul_right_comm, divNearestEven_scale _ _ positive, nearestCount]

theorem nearestCount_mono (positive : 0 < d) (ordered : m ≤ n) :
    nearestCount m d ≤ nearestCount n d := by
  rcases Nat.lt_or_eq_of_le (excessBits_mono d ordered) with less | same
  · -- A power of two with 53 bits lies between the two.
    have power : 53 + excessBits m d ≤ 52 + excessBits n d := by omega
    calc nearestCount m d ≤ 2 ^ 53 * 2 ^ excessBits m d :=
          Nat.mul_le_mul_right _ (nearest_significand_le positive)
      _ = 2 ^ (53 + excessBits m d) := (Nat.pow_add 2 _ _).symm
      _ ≤ 2 ^ (52 + excessBits n d) := Nat.pow_le_pow_right Nat.two_pos power
      _ = 2 ^ 52 * 2 ^ excessBits n d := Nat.pow_add 2 _ _
      _ ≤ nearestCount n d :=
          Nat.mul_le_mul_right _ (le_nearest_significand positive (by omega))
  · unfold nearestCount
    rw [same]
    exact Nat.mul_le_mul_right _ (divNearestEven_mono _ ordered)

theorem nearestCount_le {n' d' : Nat} (positive : 0 < d) (positive' : 0 < d')
    (ordered : n * d' ≤ n' * d) : nearestCount n d ≤ nearestCount n' d' := by
  have common := nearestCount_mono (Nat.mul_pos positive positive') ordered
  rwa [nearestCount_scale n d positive', Nat.mul_comm d d', nearestCount_scale n' d' positive]
    at common

theorem nearestCount_exact (t : Nat) (bits : m < 0x20000000000000) :
    nearestCount (m * 2 ^ t) 1 = m * 2 ^ t := by
  have excess : excessBits (m * 2 ^ t) 1 ≤ t := by
    rcases Nat.eq_zero_or_pos m with rfl | positive
    · simp [excessBits]
    · have nonzero : m * 2 ^ t ≠ 0 := Nat.ne_of_gt (Nat.mul_pos positive (Nat.two_pow_pos t))
      have below : m * 2 ^ t < 2 ^ (53 + t) := by
        rw [Nat.pow_add]
        exact Nat.mul_lt_mul_of_pos_right bits (Nat.two_pow_pos t)
      have most := (Nat.log2_lt nonzero).mpr below
      unfold excessBits
      rw [Nat.div_one]
      omega
  have split : m * 2 ^ t =
      m * 2 ^ (t - excessBits (m * 2 ^ t) 1) * 2 ^ excessBits (m * 2 ^ t) 1 := by
    rw [Nat.mul_assoc, ← Nat.pow_add, Nat.sub_add_cancel excess]
  unfold nearestCount
  rw [Nat.one_mul]
  generalize excessBits (m * 2 ^ t) 1 = s at split
  rw [split, divNearestEven_mul _ (Nat.two_pow_pos s)]

end

/-! ### The result of a rounding -/

/-- The smallest positive number is `2 ^ -unitBits`. -/
def unitBits : Nat := 1074

theorem unitsPerOne_eq : Binary64.unitsPerOne = 2 ^ unitBits := Nat.one_shiftLeft unitBits

namespace Rounded

def Covers (n d : Nat) (j : Int) : Prop := d * 2 ^ j.toNat ≤ n * 2 ^ (-j).toNat

section

variable {n d : Nat} {i j : Int}

theorem covers_iff {a b : Nat} (power : (a : Int) - b = j) :
    Covers n d j ↔ d * 2 ^ a ≤ n * 2 ^ b := by
  obtain ⟨c, rfl, rfl⟩ : ∃ c, a = j.toNat + c ∧ b = (-j).toNat + c :=
    ⟨a - j.toNat, by omega, by omega⟩
  rw [Nat.pow_add, Nat.pow_add, ← Nat.mul_assoc, ← Nat.mul_assoc]
  exact (Nat.mul_le_mul_right_iff (Nat.two_pow_pos c)).symm

theorem Covers.mono (covers : Covers n d j) (lower : i ≤ j) : Covers n d i := by
  have higher : d * 2 ^ (i + (-i).toNat).toNat ≤ n * 2 ^ (-i).toNat := by
    refine Nat.le_trans (Nat.mul_le_mul_left d (Nat.pow_le_pow_right Nat.two_pos ?_))
      ((covers_iff (a := (j + (-i).toNat).toNat) (b := (-i).toNat) (by omega)).mp covers)
    omega
  exact (covers_iff (by omega)).mpr higher

/-- The power of two in front of a quotient, up to one. -/
theorem covers_log2 (nonzero : n ≠ 0) (positive : d ≠ 0) :
    Covers n d ((n.log2 : Int) - d.log2 - 1) ∧ ¬Covers n d ((n.log2 : Int) - d.log2 + 1) := by
  have low := Nat.log2_self_le nonzero
  have high := Nat.lt_log2_self (n := n)
  have least := Nat.log2_self_le positive
  have most := Nat.lt_log2_self (n := d)
  constructor
  · rw [covers_iff (a := n.log2) (b := d.log2 + 1) (by omega), Nat.mul_comm n]
    exact Nat.mul_le_mul (Nat.le_of_lt most) low
  · rw [covers_iff (a := n.log2 + 1) (b := d.log2) (by omega), Nat.not_le, Nat.mul_comm d]
    exact Nat.mul_lt_mul_of_lt_of_le high least (Nat.pos_of_ne_zero positive)

/-- The exponent leaves 53 bits of the quotient, or is the least one. -/
theorem exponentFor_eq (nonzero : n ≠ 0) (positive : d ≠ 0) :
    ∃ e, exponentFor n d = max (-1074) e ∧ Covers n d (e + 52) ∧ ¬Covers n d (e + 53) := by
  obtain ⟨above, below⟩ := covers_log2 nonzero positive
  have test : (if 0 ≤ (n.log2 : Int) - d.log2 - 53
      then decide (d <<< (((n.log2 : Int) - d.log2 - 53).toNat + 53) ≤ n)
      else decide (d <<< 53 ≤ n <<< (-((n.log2 : Int) - d.log2 - 53)).toNat)) = true ↔
        Covers n d ((n.log2 : Int) - d.log2) := by
    split
    · rw [decide_eq_true_iff, Nat.shiftLeft_eq,
        covers_iff (a := ((n.log2 : Int) - d.log2 - 53).toNat + 53) (b := 0) (by omega),
        Nat.pow_zero, Nat.mul_one]
    · rw [decide_eq_true_iff, Nat.shiftLeft_eq, Nat.shiftLeft_eq,
        covers_iff (a := 53) (b := (-((n.log2 : Int) - d.log2 - 53)).toNat) (by omega)]
  unfold exponentFor
  dsimp only
  by_cases covers : Covers n d ((n.log2 : Int) - d.log2)
  · rw [if_pos (test.mpr covers)]
    refine ⟨_, rfl, ?_, ?_⟩
    · rwa [show (n.log2 : Int) - d.log2 - 53 + 1 + 52 = n.log2 - d.log2 by omega]
    · rwa [show (n.log2 : Int) - d.log2 - 53 + 1 + 53 = n.log2 - d.log2 + 1 by omega]
  · rw [if_neg (mt test.mp covers)]
    refine ⟨_, rfl, ?_, ?_⟩
    · rwa [show (n.log2 : Int) - d.log2 - 53 + 52 = n.log2 - d.log2 - 1 by omega]
    · rwa [show (n.log2 : Int) - d.log2 - 53 + 53 = n.log2 - d.log2 by omega]

theorem exponentFor_excessBits (nonzero : n ≠ 0) (positive : d ≠ 0) :
    exponentFor n d = (excessBits (n * 2 ^ unitBits) d : Int) - unitBits := by
  have least : (unitBits : Int) = 1074 := rfl
  obtain ⟨e, chosen, above, below⟩ := exponentFor_eq nonzero positive
  rw [chosen]
  have bits : excessBits (n * 2 ^ unitBits) d = (e + unitBits).toNat := by
    apply excessBits_eq (Nat.pos_of_ne_zero positive)
    · refine Nat.lt_of_not_le fun covers => below ?_
      have there := (covers_iff (j := (53 + (e + unitBits).toNat : Nat) - unitBits) rfl).mpr covers
      exact there.mono (by omega)
    · intro excess
      exact (covers_iff (by omega)).mp above
  rw [bits]
  omega

theorem scaled_eq (n d : Nat) {s : Nat} {e : Int} (exponent : e = (s : Int) - unitBits) :
    scaled n d e = divNearestEven (n * 2 ^ unitBits) (d * 2 ^ s) := by
  unfold scaled
  split
  · rw [Nat.shiftLeft_eq, ← divNearestEven_scale n _ (Nat.two_pow_pos unitBits), Nat.mul_assoc,
      ← Nat.pow_add, show e.toNat + unitBits = s by omega]
  · rw [Nat.shiftLeft_eq, ← divNearestEven_scale _ d (Nat.two_pow_pos s), Nat.mul_assoc,
      ← Nat.pow_add, show (-e).toNat + s = unitBits by omega]

def countLimit : Nat := 2 ^ (53 + 2045)

/-- What a rounding gives for a count of the smallest positive number. -/
structure Counts (r : Rounded) (negative : Bool) (count : Nat) : Prop where
  finite : count < countLimit → ∃ x, r = .finite x ∧ x.negative = negative ∧ x.magnitude = count
  infinite : countLimit ≤ count → r = .infinite negative

theorem mul_two_pow_lt_iff {m s : Nat} (k : Nat) (bits : m < 0x20000000000000)
    (canonical : 0x10000000000000 ≤ m ∨ s = 0) : m * 2 ^ s < 2 ^ (53 + k) ↔ s ≤ k := by
  constructor
  · intro below
    rcases canonical with large | rfl
    · have power : 2 ^ (52 + s) < 2 ^ (53 + k) := by
        refine Nat.lt_of_le_of_lt ?_ below
        rw [Nat.pow_add]
        exact Nat.mul_le_mul_right _ large
      have exponents := (Nat.pow_lt_pow_iff_right Nat.one_lt_two).mp power
      omega
    · exact Nat.zero_le _
  · intro small
    rw [Nat.pow_add]
    exact Nat.mul_lt_mul_of_lt_of_le bits (Nat.pow_le_pow_right Nat.two_pos small)
      (Nat.two_pow_pos k)

theorem lt_countLimit_iff {m s : Nat} (bits : m < 0x20000000000000)
    (canonical : 0x10000000000000 ≤ m ∨ s = 0) : m * 2 ^ s < countLimit ↔ s ≤ 2045 := by
  unfold countLimit
  exact mul_two_pow_lt_iff 2045 bits canonical

theorem counts_ofParts {negative : Bool} {m s : Nat} (bits : m < 0x20000000000000)
    (canonical : 0x10000000000000 ≤ m ∨ s = 0) :
    Counts (ofParts negative m ((s : Int) - unitBits)) negative (m * 2 ^ s) := by
  have least : (unitBits : Int) = 1074 := rfl
  have fits := lt_countLimit_iff bits canonical
  constructor
  · intro below
    have small := fits.mp below
    refine ⟨⟨negative, m, (s : Int) - unitBits, bits, by omega, by omega, by omega⟩,
      dif_pos ⟨bits, by omega, by omega, by omega⟩, rfl, ?_⟩
    rw [Binary64.magnitude, Nat.shiftLeft_eq]
    dsimp only
    rw [show ((s : Int) - unitBits + 1074).toNat = s by omega]
  · intro large
    refine dif_neg fun ⟨_, _, top, _⟩ => ?_
    exact Nat.not_lt.mpr large (fits.mpr (by omega))

/-- `Binary64.round` gives the nearest number, as long as it is one. -/
theorem counts_round (negative : Bool) (n : Nat) {d : Nat} (positive : d ≠ 0) :
    Counts (Binary64.round negative n d) negative (nearestCount (n * 2 ^ unitBits) d) := by
  have least : (unitBits : Int) = 1074 := rfl
  unfold Binary64.round
  by_cases zero : n = 0
  · have none : nearestCount (n * 2 ^ unitBits) d = 0 := by
      have exact_zero := nearestCount_exact (m := 0) 0 (by decide)
      have below : nearestCount (n * 2 ^ unitBits) d ≤ nearestCount (0 * 2 ^ 0) 1 :=
        nearestCount_le (Nat.pos_of_ne_zero positive) (by decide) (by simp [zero])
      omega
    rw [if_pos zero, none]
    refine ⟨fun _ => ⟨_, rfl, rfl, Nat.zero_shiftLeft _⟩, fun large => ?_⟩
    exact absurd (Nat.two_pow_pos (53 + 2045)) (Nat.not_lt.mpr large)
  · have bits := nearest_significand_le (n := n * 2 ^ unitBits) (Nat.pos_of_ne_zero positive)
    have normal := le_nearest_significand (n := n * 2 ^ unitBits) (Nat.pos_of_ne_zero positive)
    rw [if_neg zero]
    dsimp only
    rw [exponentFor_excessBits zero positive, scaled_eq n d rfl, nearestCount]
    generalize excessBits (n * 2 ^ unitBits) d = s at *
    generalize divNearestEven (n * 2 ^ unitBits) (d * 2 ^ s) = m at *
    by_cases full : m = 0x20000000000000
    · have power : m * 2 ^ s = 0x10000000000000 * 2 ^ (s + 1) := by
        rw [full, Nat.pow_succ]
        omega
      rw [if_pos full, power, show (s : Int) - unitBits + 1 = (s + 1 : Nat) - unitBits by omega]
      exact counts_ofParts (by decide) (.inl (by decide))
    · rw [if_neg full]
      exact counts_ofParts (by omega) (by omega)

end

end Rounded

end MockData
