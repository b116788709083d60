import MockData.Random.Draw

/-!
# Draws stay in their bounds

Whatever the source gives, a number drawn below `n` is below `n`, a number drawn between two bounds
lies between them, and an event happens only if its probability allows it. Where only one outcome is
left, the draw takes a single word.
-/

namespace MockData

/-- Scaling a word below the modulus gives a number below `n`, also when a second word raises it. -/
theorem scaled_lt {modulus n w : Nat} (positive : 0 < n) (word : w < modulus) :
    w * n / modulus < n ∧ (modulus - n < w * n % modulus → w * n / modulus + 1 < n) := by
  have bound : w * n ≤ modulus * n - n := by
    have := Nat.mul_le_mul_right n (Nat.le_pred_of_lt word)
    rwa [Nat.pred_eq_sub_one, Nat.sub_mul, Nat.one_mul] at this
  have split := Nat.div_add_mod (w * n) modulus
  generalize w * n / modulus = high at split ⊢
  generalize w * n % modulus = low at split ⊢
  have total : n ≤ modulus * n := Nat.le_mul_of_pos_left n (by omega)
  constructor
  · apply Nat.lt_of_mul_lt_mul_left (a := modulus)
    omega
  · intro close
    -- The only other high half is `n - 1`, and it leaves too little room for a close low half.
    rcases Nat.lt_or_ge (high + 1) n with below | atTop
    · exact below
    · have enough := Nat.mul_le_mul_left modulus (show n - 1 ≤ high by omega)
      rw [Nat.mul_sub, Nat.mul_one] at enough
      omega

namespace Draw

variable {σ : Type}

theorem bind_apply {α β : Type} (d : Draw σ α) (f : α → Draw σ β) (s : σ) :
    (d >>= f) s = f (d s).1 (d s).2 := rfl

theorem belowWith_lt {modulus n : Nat} {word : Draw σ Nat} (positive : 0 < n)
    (words : ∀ s, (word s).1 < modulus) (s : σ) : (belowWith modulus word n s).1 < n := by
  have first := words s
  have scaled := scaled_lt positive first
  unfold belowWith
  rw [bind_apply]
  by_cases full : n = modulus
  · rw [if_pos full, full]
    exact first
  · rw [if_neg full]
    dsimp only [scaleWord]
    split
    · rename_i close
      have raised := scaled.2 (of_decide_eq_true close)
      rw [bind_apply]
      show (if _ then _ else _) < n
      split
      · exact raised
      · exact scaled.1
    · exact scaled.1

/-- A number below one takes one word and no second one. -/
theorem belowWith_one {modulus : Nat} {word : Draw σ Nat} (large : 1 < modulus)
    (words : ∀ s, (word s).1 < modulus) (s : σ) : belowWith modulus word 1 s = (0, (word s).2) := by
  have first := words s
  have high : (word s).1 / modulus = 0 := Nat.div_eq_of_lt first
  have low : (word s).1 % modulus = (word s).1 := Nat.mod_eq_of_lt first
  unfold belowWith
  rw [bind_apply, if_neg (Nat.ne_of_lt large)]
  simp only [scaleWord, Nat.mul_one, high, low]
  rw [if_neg]
  · rfl
  · rw [decide_eq_true_eq]
    omega

variable [RandomSource σ]

theorem word32_lt (s : σ) : (word32 s).1 < 0x100000000 := (RandomSource.next32 s).1.toNat_lt

theorem word64_lt (s : σ) : (word64 s).1 < 0x10000000000000000 := (RandomSource.next64 s).1.toNat_lt

theorem below32_lt {n : Nat} (positive : 0 < n) (s : σ) : (below32 n s).1 < n :=
  belowWith_lt positive word32_lt s

theorem below64_lt {n : Nat} (positive : 0 < n) (s : σ) : (below64 n s).1 < n :=
  belowWith_lt positive word64_lt s

theorem index_lt {n : Nat} (positive : 0 < n) (s : σ) : (index n s).1 < n := by
  unfold index
  split
  · exact below32_lt positive s
  · exact below64_lt positive s

theorem between64_bounds {min max : Nat} (ordered : min ≤ max) (s : σ) :
    min ≤ (between64 min max s).1 ∧ (between64 min max s).1 ≤ max := by
  have below := below64_lt (show 0 < max - min + 1 by omega) s
  have value : (between64 min max s).1 = min + (below64 (max - min + 1) s).1 := rfl
  omega

/-- An event that happens is possible, and one that does not is not certain. -/
theorem chance_possible (p : Binary64) (s : σ) :
    ((chance p s).1 = true → Binary64.zero.lt p = true) ∧
    ((chance p s).1 = false → p.lt .one = true) := by
  have word := word64_lt s
  have value : (chance p s).1 =
      decide (((((word64 s).1 >>> 11) <<< 1021 : Nat) : Int) < p.units) := rfl
  have one : Binary64.one.units = Binary64.unitsPerOne := by decide +kernel
  have zero : Binary64.zero.units = 0 := by decide +kernel
  have top : ((word64 s).1 >>> 11) <<< 1021 < Binary64.unitsPerOne := by
    show _ < 1 <<< (53 + 1021)
    rw [Nat.shiftLeft_add, Nat.shiftLeft_eq _ 1021, Nat.shiftLeft_eq _ 1021,
      Nat.shiftRight_eq_div_pow]
    exact Nat.mul_lt_mul_of_pos_right (by omega) (Nat.two_pow_pos 1021)
  generalize ((word64 s).1 >>> 11) <<< 1021 = drawn at value top
  generalize Binary64.unitsPerOne = whole at one top
  simp only [value, Binary64.lt, decide_eq_true_eq, decide_eq_false_iff_not]
  constructor
  · intro happened
    omega
  · intro failed
    omega

theorem index_one (s : σ) : index 1 s = (0, (word32 s).2) :=
  belowWith_one (by decide) word32_lt s

theorem between64_self (n : Nat) (s : σ) : between64 n n s = (n, (word64 s).2) := by
  have single : below64 1 s = (0, (word64 s).2) := belowWith_one (by decide) word64_lt s
  unfold between64
  rw [bind_apply, Nat.sub_self, single]
  rfl

theorem chance_zero {p : Binary64} (zero : p.units = 0) (s : σ) :
    chance p s = (false, (word64 s).2) := by
  have never : (chance p s).1 = false := by
    apply eq_false_of_ne_true
    intro happened
    have possible := (chance_possible p s).1 happened
    have none : Binary64.zero.units = 0 := by decide +kernel
    rw [Binary64.lt, none, zero] at possible
    exact absurd possible (by decide)
  exact Prod.ext never rfl

theorem chance_one {p : Binary64} (one : p.units = Binary64.unitsPerOne) (s : σ) :
    chance p s = (true, (word64 s).2) := by
  have always : (chance p s).1 = true := by
    apply eq_true_of_ne_false
    intro failed
    have possible := (chance_possible p s).2 failed
    have whole : Binary64.one.units = Binary64.unitsPerOne := by decide +kernel
    rw [Binary64.lt, whole, one, decide_eq_true_eq] at possible
    omega
  exact Prod.ext always rfl

end Draw

end MockData
