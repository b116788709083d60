import MockData.Proofs.Numeric.Values
import MockData.Proofs.Random.Draws
import MockData.Provider.Numbers

/-!
# Floats are drawn between their bounds

A fraction below one of a width is added to the lower bound, and each of the two operations is
rounded. `Fits` says of a width that even the largest fraction of it does not lead beyond the upper
bound. The distance of the bounds, rounded, fits; `Numbers.width?` starts a little above it and
steps down until the width fits, for which four steps are enough.
-/

namespace MockData

open Binary64 Rounded

/-! ### Counts of the smallest number -/

theorem nearest_count {m : Nat} (t : Nat) (bits : m < 0x20000000000000) :
    nearest (((m * 2 ^ t : Nat) : ℚ) / unitsPerOne) = ((m * 2 ^ t : Nat) : ℚ) / unitsPerOne := by
  have nonneg := magnitude_div_nonneg (m * 2 ^ t)
  have count := countOf_eq unitsPerOne_pos (abs_of_nonneg nonneg).symm
  have scaled := nearestCount_scale (m * 2 ^ t) 1 (Nat.two_pow_pos unitBits)
  rw [Nat.one_mul, nearestCount_exact t bits] at scaled
  rw [unitsPerOne_eq, scaled, ← unitsPerOne_eq] at count
  exact (oddly_of_nonneg nonneg).trans (by rw [count])

/-- Rounding adds at most one to a count of little more than 53 bits. -/
theorem nearest_count_le_succ {j : Nat} (t : Nat) (bits : j ≤ 0x20000000000002) :
    nearest (((j * 2 ^ t : Nat) : ℚ) / unitsPerOne) ≤ (((j + 1) * 2 ^ t : Nat) : ℚ) / unitsPerOne := by
  have scaled {a b : Nat} (less : a ≤ b) : (a : ℚ) / unitsPerOne ≤ b / unitsPerOne := by
    rw [div_le_div_iff_of_pos_right unitsPerOne_pos_rat]
    exact_mod_cast less
  -- The next even multiple has one bit less.
  have even := nearest_count (t + 1) (show (j + 1) / 2 < 0x20000000000000 by omega)
  have above : j * 2 ^ t ≤ (j + 1) / 2 * 2 ^ (t + 1) := by
    rw [Nat.pow_succ, Nat.mul_comm (2 ^ t), ← Nat.mul_assoc]
    exact Nat.mul_le_mul_right _ (by omega)
  have below : (j + 1) / 2 * 2 ^ (t + 1) ≤ (j + 1) * 2 ^ t := by
    rw [Nat.pow_succ, Nat.mul_comm (2 ^ t), ← Nat.mul_assoc]
    exact Nat.mul_le_mul_right _ (by omega)
  calc nearest (((j * 2 ^ t : Nat) : ℚ) / unitsPerOne)
      ≤ nearest ((((j + 1) / 2 * 2 ^ (t + 1) : Nat) : ℚ) / unitsPerOne) := nearest_mono (scaled above)
    _ = (((j + 1) / 2 * 2 ^ (t + 1) : Nat) : ℚ) / unitsPerOne := even
    _ ≤ (((j + 1) * 2 ^ t : Nat) : ℚ) / unitsPerOne := scaled below

theorem value_of_nonneg {x : Binary64} (nonneg : 0 ≤ x.value) :
    x.value = (x.magnitude : ℚ) / unitsPerOne := by
  rw [← abs_value, abs_of_nonneg nonneg]

theorem negative_eq_false {x : Binary64} (nonneg : 0 ≤ x.value) (positive : 0 < x.magnitude) :
    x.negative = false := by
  have magnitude : 0 < (x.magnitude : ℚ) / unitsPerOne :=
    div_pos (by exact_mod_cast positive) unitsPerOne_pos_rat
  rw [value_of_magnitude] at nonneg
  cases negated : x.negative with
  | false => rfl
  | true =>
    rw [negated, if_pos rfl] at nonneg
    linarith

theorem value_belowOne : belowOne.value = 1 - 1 / 0x10000000000000 := by
  rw [value_eq, show belowOne.negative = false from rfl, if_neg Bool.false_ne_true]
  norm_num [belowOne]

theorem belowOne_mul_le {v : ℚ} (nonneg : 0 ≤ v) : belowOne.value * v ≤ v := by
  rw [value_belowOne]
  linarith

theorem nearest_distance (k : Nat) :
    nearest ((k : ℚ) / unitsPerOne) = (nearestCount k 1 : ℚ) / unitsPerOne := by
  have nonneg := magnitude_div_nonneg k
  have count := countOf_eq unitsPerOne_pos (abs_of_nonneg nonneg).symm
  have scaled := nearestCount_scale k 1 (Nat.two_pow_pos unitBits)
  rw [Nat.one_mul] at scaled
  rw [unitsPerOne_eq, scaled, ← unitsPerOne_eq] at count
  exact (oddly_of_nonneg nonneg).trans (by rw [count])

/-- The largest fraction of a rounded distance does not exceed the distance, even if the rounding
was upwards. -/
theorem nearest_belowOne_mul_le {k : Nat} {v : ℚ} (nonneg : 0 ≤ v)
    (below : v ≤ nearest ((k : ℚ) / unitsPerOne)) :
    nearest (belowOne.value * v) ≤ (k : ℚ) / unitsPerOne := by
  have positive := unitsPerOne_pos_rat
  rw [nearest_distance] at below
  by_cases excess : 0 < excessBits k 1
  · -- The fraction takes at least one from the significand, and the rounding added at most one.
    have bits := nearest_significand_le (n := k) Nat.one_pos
    have normal := le_nearest_significand (n := k) Nat.one_pos excess
    have rounded := divNearestEven_le k (1 * 2 ^ excessBits k 1)
    have whole := Nat.div_mul_le_self k (2 ^ excessBits k 1)
    unfold nearestCount at below
    rw [Nat.one_mul] at bits normal rounded below
    generalize divNearestEven k (2 ^ excessBits k 1) = m at *
    generalize excessBits k 1 = s at *
    have distance : (m - 1) * 2 ^ s ≤ k :=
      Nat.le_trans (Nat.mul_le_mul_right _ (by omega)) whole
    have fraction : belowOne.value * v ≤ (((m - 1) * 2 ^ s : Nat) : ℚ) / unitsPerOne := by
      have most : (m : ℚ) - m / 0x10000000000000 ≤ ((m - 1 : Nat) : ℚ) := by
        have large : (0x10000000000000 : ℚ) ≤ m := by exact_mod_cast normal
        rw [Nat.cast_sub (by omega)]
        push_cast
        linarith
      have scaled := mul_le_mul_of_nonneg_right most
        (div_nonneg (pow_nonneg zero_le_two s) positive.le : (0 : ℚ) ≤ 2 ^ s / unitsPerOne)
      calc belowOne.value * v
          ≤ belowOne.value * (((m * 2 ^ s : Nat) : ℚ) / unitsPerOne) := by
            apply mul_le_mul_of_nonneg_left below
            rw [value_belowOne]
            norm_num
        _ = ((m : ℚ) - m / 0x10000000000000) * (2 ^ s / unitsPerOne) := by
            rw [value_belowOne]
            push_cast
            ring
        _ ≤ ((m - 1 : Nat) : ℚ) * (2 ^ s / unitsPerOne) := scaled
        _ = (((m - 1) * 2 ^ s : Nat) : ℚ) / unitsPerOne := by
            push_cast
            ring
    calc nearest (belowOne.value * v)
        ≤ nearest ((((m - 1) * 2 ^ s : Nat) : ℚ) / unitsPerOne) := nearest_mono fraction
      _ = (((m - 1) * 2 ^ s : Nat) : ℚ) / unitsPerOne := nearest_count s (by omega)
      _ ≤ (k : ℚ) / unitsPerOne := by
          rw [div_le_div_iff_of_pos_right positive]
          exact_mod_cast distance
  · -- A distance of at most 53 bits is not rounded.
    have small := lt_excessBits (n := k) Nat.one_pos
    rw [Nat.eq_zero_of_not_pos excess, Nat.one_mul] at small
    have same := nearestCount_exact 0 small
    have count := nearest_count 0 small
    rw [Nat.pow_zero, Nat.mul_one] at same count
    rw [same] at below
    calc nearest (belowOne.value * v) ≤ nearest ((k : ℚ) / unitsPerOne) :=
          nearest_mono ((belowOne_mul_le nonneg).trans below)
      _ = (k : ℚ) / unitsPerOne := count

/-- Dividing by the largest fraction adds at most four last places. -/
theorem nearest_div_belowOne_le {x : Binary64} (nonneg : 0 ≤ x.value) :
    nearest (x.value / belowOne.value) ≤
      ((x.magnitude + 4 * 2 ^ (x.exponent + 1074).toNat : Nat) : ℚ) / unitsPerOne := by
  have bits := x.significand_lt
  have positive := unitsPerOne_pos_rat
  have small : (x.significand : ℚ) ≤ 0x20000000000000 := by exact_mod_cast bits.le
  have few : (x.significand : ℚ) / belowOne.value ≤ ((x.significand + 3 : Nat) : ℚ) := by
    rw [value_belowOne, div_le_iff₀ (by norm_num)]
    push_cast
    linarith
  have scaled := mul_le_mul_of_nonneg_right few
    (div_nonneg (pow_nonneg zero_le_two (x.exponent + 1074).toNat) positive.le :
      (0 : ℚ) ≤ 2 ^ (x.exponent + 1074).toNat / unitsPerOne)
  have quotient : x.value / belowOne.value ≤
      (((x.significand + 3) * 2 ^ (x.exponent + 1074).toNat : Nat) : ℚ) / unitsPerOne := by
    calc x.value / belowOne.value =
          x.significand / belowOne.value * (2 ^ (x.exponent + 1074).toNat / unitsPerOne) := by
          rw [value_of_nonneg nonneg, magnitude_eq]
          push_cast
          ring
      _ ≤ ((x.significand + 3 : Nat) : ℚ) * (2 ^ (x.exponent + 1074).toNat / unitsPerOne) := scaled
      _ = (((x.significand + 3) * 2 ^ (x.exponent + 1074).toNat : Nat) : ℚ) / unitsPerOne := by
          push_cast
          ring
  have places : x.magnitude + 4 * 2 ^ (x.exponent + 1074).toNat =
      (x.significand + 3 + 1) * 2 ^ (x.exponent + 1074).toNat := by
    rw [magnitude_eq, ← Nat.add_mul]
  rw [places]
  exact (nearest_mono quotient).trans (nearest_count_le_succ _ (by omega))

/-! ### Widths that fit -/

/-- The largest fraction of the width, added to the lower bound, stays at or below the upper one. -/
structure Fits (min max width : Binary64) : Prop where
  nonneg : 0 ≤ width.value
  top : nearest (nearest (belowOne.value * width.value) + min.value) ≤ max.value

section

variable {min max width : Binary64}

theorem fits_of_le (ordered : min.value ≤ max.value) (nonneg : 0 ≤ width.value)
    (below : width.value ≤ nearest (max.value - min.value)) : Fits min max width := by
  refine ⟨nonneg, ?_⟩
  rw [value_le_iff] at ordered
  obtain ⟨k, distance⟩ := Int.le.dest_sub ordered
  have units : max.value - min.value = (k : ℚ) / unitsPerOne := by
    rw [value, value, ← sub_div, ← Int.cast_sub, distance, Int.cast_natCast]
  rw [units] at below
  have most := nearest_belowOne_mul_le nonneg below
  calc nearest (nearest (belowOne.value * width.value) + min.value)
      ≤ nearest max.value := nearest_mono (by linarith)
    _ = max.value := nearest_value max

theorem Fits.between (fits : Fits min max width) {f : Binary64} (least : 0 ≤ f.value)
    (most : f.value ≤ belowOne.value) :
    ∃ x, ((f.mul width).bind fun offset => offset.add min) = .finite x ∧ min.value ≤ x.value ∧
      x.value ≤ max.value := by
  have none : zero.value = 0 := value_eq_zero rfl
  have share : f.value * width.value ≤ belowOne.value * width.value :=
    mul_le_mul_of_nonneg_right most fits.nonneg
  obtain ⟨offset, finite, positive, _⟩ := (rounds_mul f width).within
    (none.le.trans (mul_nonneg least fits.nonneg)) (share.trans (belowOne_mul_le fits.nonneg))
  rw [none] at positive
  have value := (finite ▸ rounds_mul f width).value.1
  have low : min.value ≤ nearest (offset.value + min.value) := by
    calc min.value = nearest min.value := (nearest_value min).symm
      _ ≤ nearest (offset.value + min.value) := nearest_mono (by linarith)
  have high : nearest (offset.value + min.value) ≤ max.value := by
    refine le_trans (nearest_mono ?_) fits.top
    rw [value]
    linarith [nearest_mono share]
  obtain ⟨x, sum, total⟩ := (rounds_add offset min).of_nearest low high
  rw [← total] at low high
  exact ⟨x, by rw [finite]; exact sum, low, high⟩

/-- What `fitWidth` looks at before it takes a width. -/
theorem top_le_iff (nonneg : 0 ≤ width.value) :
    ((width.mul belowOne).bind fun x => x.add min).le max ↔ Fits min max width := by
  have none : zero.value = 0 := value_eq_zero rfl
  have share := belowOne_mul_le nonneg
  have product := rounds_mul width belowOne
  rw [mul_comm] at product
  have above : zero.value ≤ belowOne.value * width.value :=
    none.le.trans (mul_nonneg (by rw [value_belowOne]; norm_num) nonneg)
  obtain ⟨x, finite, positive, _⟩ := product.within above share
  rw [none] at positive
  have value := (finite ▸ product).value.1
  have sum := rounds_add x min
  rw [value] at sum
  have fits : Fits min max width ↔
      nearest (nearest (belowOne.value * width.value) + min.value) ≤ max.value :=
    ⟨Fits.top, fun top => ⟨nonneg, top⟩⟩
  rw [fits, finite]
  show (x.add min).le max ↔ _
  cases result : x.add min with
  | finite y =>
    rw [result] at sum
    rw [← sum.value.1]
    exact le_iff_value y max
  | infinite negative =>
    rw [result] at sum
    -- The sum is not below `min`, so it is too large upwards.
    have low : min.value ≤ nearest (nearest (belowOne.value * width.value) + min.value) := by
      rw [← value]
      calc min.value = nearest min.value := (nearest_value min).symm
        _ ≤ nearest (x.value + min.value) := nearest_mono (by linarith)
    have never : ¬nearest (nearest (belowOne.value * width.value) + min.value) ≤ max.value := by
      intro high
      obtain ⟨y, same, _⟩ := sum.of_nearest low high
      exact nomatch same
    have upwards : negative = false := by
      rw [sum.negative_of_infinite, decide_eq_false_iff_not]
      intro below
      rw [← value] at sum below
      obtain ⟨y, same, _⟩ := sum.within (show min.value ≤ x.value + min.value by linarith)
        (below.le.trans none.ge)
      exact nomatch same
    rw [upwards]
    exact iff_of_false Bool.false_ne_true never

end

/-! ### Stepping down -/

/-- A number above another one has a next smaller number, at least a last place of the other one
away. -/
theorem exists_previous {x y : Binary64} (larger : y.magnitude < x.magnitude) :
    ∃ z, x.previous = .finite z ∧ z.negative = x.negative ∧
      z.magnitude + 2 ^ (y.exponent + 1074).toNat ≤ x.magnitude := by
  have bitsX := x.significand_lt
  have bitsY := y.significand_lt
  have leastX := x.exponent_ge
  have leastY := y.exponent_ge
  have mostX := x.exponent_le
  have canonicalX := x.canonical
  have canonicalY := y.canonical
  have places : (y.exponent + 1074).toNat ≤ (x.exponent + 1074).toNat := by
    refine Nat.le_of_not_lt fun finer => ?_
    have power : 2 ^ (x.exponent + 1074).toNat * 2 ≤ 2 ^ (y.exponent + 1074).toNat := by
      rw [← Nat.pow_succ]
      exact Nat.pow_le_pow_right Nat.two_pos finer
    have small := Nat.mul_lt_mul_of_pos_right bitsX (Nat.two_pow_pos (x.exponent + 1074).toNat)
    have large := Nat.mul_le_mul_right (2 ^ (y.exponent + 1074).toNat)
      (show 0x10000000000000 ≤ y.significand by omega)
    rw [magnitude_eq, magnitude_eq] at larger
    omega
  have nonzero : x.significand ≠ 0 := by
    intro none
    rw [magnitude_eq x, none, Nat.zero_mul] at larger
    exact absurd larger (Nat.not_lt_zero _)
  unfold previous
  rw [if_neg nonzero]
  by_cases boundary : x.significand = 0x10000000000000 ∧ x.exponent ≠ -1074
  · obtain ⟨least, normal⟩ := boundary
    rw [if_pos ⟨least, normal⟩]
    have coarser : (y.exponent + 1074).toNat + 1 ≤ (x.exponent + 1074).toNat := by
      refine Nat.lt_of_le_of_ne places fun same => ?_
      rw [magnitude_eq, magnitude_eq, same] at larger
      have order := Nat.lt_of_mul_lt_mul_right larger
      omega
    obtain ⟨z, finite⟩ : ∃ z, ofParts x.negative 0x1fffffffffffff (x.exponent - 1) = .finite z :=
      exists_ofParts (by decide) (by decide) (by omega) (by omega)
    obtain ⟨sign, significand, exponent⟩ := ofParts_finite finite
    refine ⟨z, finite, sign, ?_⟩
    have power : 2 ^ (y.exponent + 1074).toNat ≤ 2 ^ (x.exponent - 1 + 1074).toNat :=
      Nat.pow_le_pow_right Nat.two_pos (by omega)
    have double : 2 ^ (x.exponent + 1074).toNat = 2 * 2 ^ (x.exponent - 1 + 1074).toNat := by
      rw [show (x.exponent + 1074).toNat = (x.exponent - 1 + 1074).toNat + 1 by omega, Nat.pow_succ']
    rw [magnitude_eq, magnitude_eq, significand, exponent, least, double]
    omega
  · rw [if_neg boundary]
    have finite : ofParts x.negative (x.significand - 1) x.exponent =
        .finite ⟨x.negative, x.significand - 1, x.exponent, by omega, leastX, mostX, by omega⟩ :=
      dif_pos ⟨by omega, leastX, mostX, by omega⟩
    obtain ⟨sign, significand, exponent⟩ := ofParts_finite finite
    refine ⟨_, finite, sign, ?_⟩
    have power : 2 ^ (y.exponent + 1074).toNat ≤ 2 ^ (x.exponent + 1074).toNat :=
      Nat.pow_le_pow_right Nat.two_pos places
    rw [magnitude_eq, magnitude_eq]
    dsimp only
    rw [Nat.sub_mul, Nat.one_mul]
    have some := Nat.mul_le_mul_right (2 ^ (x.exponent + 1074).toNat)
      (Nat.pos_of_ne_zero nonzero)
    omega

namespace Numbers

variable {min max width : Binary64}

/-- From `j` last places above the rounded distance, `j` steps are enough. -/
theorem fitWidth_fits (ordered : min.value ≤ max.value) {distance : Binary64}
    (rounded : distance.value = nearest (max.value - min.value)) (steps : Nat) :
    ∀ j ≤ steps, ∀ width : Binary64, 0 ≤ width.value →
      width.magnitude ≤ distance.magnitude + j * 2 ^ (distance.exponent + 1074).toNat →
      Fits min max (fitWidth min max steps width) := by
  have nonneg : 0 ≤ distance.value := by
    rw [rounded]
    exact nearest_nonneg (by linarith)
  have close {width : Binary64} (positive : 0 ≤ width.value)
      (below : width.magnitude ≤ distance.magnitude) : Fits min max width := by
    apply fits_of_le ordered positive
    rw [← rounded, value_of_nonneg positive, value_of_nonneg nonneg,
      div_le_div_iff_of_pos_right unitsPerOne_pos_rat]
    exact_mod_cast below
  induction steps with
  | zero =>
    intro j few width positive below
    obtain rfl := Nat.le_zero.mp few
    rw [Nat.zero_mul, Nat.add_zero] at below
    exact close positive below
  | succ steps ih =>
    intro j few width positive below
    unfold fitWidth
    dsimp only
    split
    · rename_i top
      exact (top_le_iff positive).mp top
    · rename_i top
      have larger : distance.magnitude < width.magnitude := by
        refine Nat.lt_of_not_le fun small => top ?_
        exact (top_le_iff positive).mpr (close positive small)
      obtain ⟨narrower, finite, sign, less⟩ := exists_previous larger
      rw [finite]
      have unsigned := negative_eq_false positive (Nat.zero_lt_of_lt larger)
      cases j with
      | zero => omega
      | succ j =>
        refine ih j (by omega) narrower ?_ ?_
        · rw [value_of_magnitude, sign, unsigned]
          exact magnitude_div_nonneg _
        · rw [Nat.succ_mul] at below
          omega

theorem width?_fits (ordered : min.value ≤ max.value) (found : width? min max = some width) :
    Fits min max width := by
  unfold width? at found
  have none : zero.value = 0 := value_eq_zero rfl
  cases difference : max.sub min with
  | infinite negative =>
    rw [difference] at found
    cases found
  | finite distance =>
    have rounded := (difference ▸ rounds_sub max min).value.1
    have nonneg : 0 ≤ distance.value := by
      rw [rounded]
      exact nearest_nonneg (by linarith)
    have divided : ((Rounded.finite distance).bind fun x => x.div belowOne) =
        distance.div belowOne := rfl
    rw [difference, divided] at found
    have quotient := rounds_div distance (y := belowOne) (by decide)
    cases start : distance.div belowOne with
    | infinite negative =>
      rw [start] at found
      cases found
    | finite widest =>
      rw [start] at found quotient
      obtain rfl := Option.some.inj found
      have positive : 0 ≤ widest.value := by
        rw [quotient.value.1]
        exact nearest_nonneg (div_nonneg nonneg (by rw [value_belowOne]; norm_num))
      have close := nearest_div_belowOne_le nonneg
      rw [← quotient.value.1, value_of_nonneg positive,
        div_le_div_iff_of_pos_right unitsPerOne_pos_rat, Nat.cast_le] at close
      exact fitWidth_fits ordered rounded 64 4 (by decide) widest positive close

end Numbers

/-! ### Draws -/

namespace Draw

variable {σ : Type} [RandomSource σ]

theorem fraction_bounds (s : σ) :
    ∃ f, (fraction s).1 = .finite f ∧ 0 ≤ f.value ∧ f.value ≤ belowOne.value := by
  have word := word64_lt s
  have drawn : (fraction s).1 = Binary64.round false ((word64 s).1 >>> 12) 0x10000000000000 := rfl
  have small : (word64 s).1 >>> 12 < 0x10000000000000 := by
    rw [Nat.shiftRight_eq_div_pow]
    omega
  generalize (word64 s).1 >>> 12 = k at *
  have rounds := rounds_round false k (d := 0x10000000000000) (by decide) rfl
  rw [← drawn, if_neg Bool.false_ne_true] at rounds
  have most : (k : ℚ) / (0x10000000000000 : Nat) ≤ belowOne.value := by
    have less : (k : ℚ) ≤ 0xfffffffffffff := by exact_mod_cast Nat.le_of_lt_succ small
    rw [value_belowOne, div_le_iff₀ (by norm_num)]
    push_cast
    linarith
  have none : zero.value = 0 := value_eq_zero rfl
  have least : zero.value ≤ (k : ℚ) / (0x10000000000000 : Nat) :=
    none.le.trans (div_nonneg (Nat.cast_nonneg _) (Nat.cast_nonneg _))
  obtain ⟨f, finite, above, below⟩ := rounds.within least most
  exact ⟨f, finite, none.ge.trans above, below⟩

end Draw

theorem Numbers.floatFrom_between {min max width : Binary64} (fits : Fits min max width)
    {σ : Type} [RandomSource σ] (s : σ) :
    ∃ x, (floatFrom min width s).1 = .finite x ∧ min.value ≤ x.value ∧ x.value ≤ max.value := by
  obtain ⟨f, finite, least, most⟩ := Draw.fraction_bounds s
  obtain ⟨x, sum, above, below⟩ := fits.between least most
  refine ⟨x, ?_, above, below⟩
  show ((Draw.fraction s).1.bind fun fraction =>
    (fraction.mul width).bind fun offset => offset.add min) = .finite x
  rw [finite]
  exact sum

end MockData
