import Mathlib.Data.List.TakeWhile
import MockData.Numeric.Decimal
import MockData.Proofs.Numeric.Values

/-!
# Decimal places

Rounding to decimal places multiplies by a power of ten, takes the nearest whole number and divides
again. Every step keeps the order, so numbers between two others stay between their results
(`roundPlaces_between`), and a number whose multiple is whole and exact stays as it is
(`roundPlaces_exact`). The same holds of the text of a number with a fixed number of places, which
is read as an exact decimal (`decimalValue?`).
-/

namespace MockData

open Binary64

namespace Rounded

theorem finite_bind (x : Binary64) (f : Binary64 → Rounded) : (finite x).bind f = f x := rfl

theorem bind_finite {r : Rounded} {f : Binary64 → Rounded} {y : Binary64} :
    r.bind f = .finite y ↔ ∃ x, r = .finite x ∧ f x = .finite y := by
  cases r with
  | finite x => simp [Rounded.bind]
  | infinite negative => simp [Rounded.bind]

theorem exists_ofNat {n : Nat} (bits : n < 0x20000000000000) :
    ∃ x, ofNat n = .finite x ∧ x.value = n := by
  obtain ⟨x, finite⟩ := exists_ofInt (n := (n : Int)) (by omega)
  have natural : ofInt n = ofNat n := by
    rw [ofInt, ofNat, Int.natAbs_natCast, decide_eq_false (by omega)]
  rw [natural] at finite
  refine ⟨x, finite, ?_⟩
  have rounds := rounds_ofNat n
  rw [finite] at rounds
  rw [rounds.value.1]
  have count : nearestCount (n * 2 ^ unitBits) 1 = n * 2 ^ unitBits := nearestCount_exact _ bits
  have nonneg : (0 : ℚ) ≤ n := Nat.cast_nonneg n
  have same : ((n : Nat) : ℚ) / (1 : Nat) = |(n : ℚ)| := by
    rw [abs_of_nonneg nonneg]
    simp
  refine (oddly_of_nonneg nonneg).trans ?_
  rw [countOf_eq Nat.one_pos same, count, ← unitsPerOne_eq, Nat.cast_mul,
    mul_div_cancel_right₀ _ unitsPerOne_pos_rat.ne']

end Rounded

open Rounded

/-! ### Rounding to places -/

theorem exists_factor {places : Nat} (few : places ≤ 15) :
    ∃ factor, ofNat (Nat.pow 10 places) = .finite factor ∧ factor.value = 10 ^ places ∧
      factor.significand ≠ 0 := by
  have bits : Nat.pow 10 places < 0x20000000000000 :=
    Nat.lt_of_le_of_lt (Nat.pow_le_pow_right (by decide) few) (by decide)
  obtain ⟨factor, finite, value⟩ := exists_ofNat bits
  have power : ((Nat.pow 10 places : Nat) : ℚ) = 10 ^ places := by
    rw [Nat.pow_eq, Nat.cast_pow]
    rfl
  rw [power] at value
  refine ⟨factor, finite, value, fun none => ?_⟩
  rw [value_eq_zero none] at value
  exact absurd value.symm (by positivity)

section

variable {places : Nat} {x : Binary64}

theorem roundPlaces_finite {factor w : Binary64}
    (power : ofNat (Nat.pow 10 places) = .finite factor) :
    x.roundPlaces places = .finite w ↔
      ∃ scaled whole, x.mul factor = .finite scaled ∧ scaled.roundHalfAway = .finite whole ∧
        whole.div factor = .finite w := by
  rw [roundPlaces, power, finite_bind]
  simp only [bind_finite]
  constructor
  · rintro ⟨scaled, mul, whole, near, div⟩
    exact ⟨scaled, whole, mul, near, div⟩
  · rintro ⟨scaled, whole, mul, near, div⟩
    exact ⟨scaled, mul, whole, near, div⟩

theorem roundPlaces_between (few : places ≤ 15) {low high y z : Binary64}
    (shownLow : low.roundPlaces places = .finite y) (shownHigh : high.roundPlaces places = .finite z)
    (above : low.value ≤ x.value) (below : x.value ≤ high.value) :
    ∃ w, x.roundPlaces places = .finite w ∧ y.value ≤ w.value ∧ w.value ≤ z.value := by
  obtain ⟨factor, power, value, nonzero⟩ := exists_factor few
  have positive : 0 < factor.value := by
    rw [value]
    positivity
  obtain ⟨scaledLow, wholeLow, mulLow, nearLow, divLow⟩ := (roundPlaces_finite power).mp shownLow
  obtain ⟨scaledHigh, wholeHigh, mulHigh, nearHigh, divHigh⟩ :=
    (roundPlaces_finite power).mp shownHigh
  obtain ⟨scaled, mul, scaledAbove, scaledBelow⟩ := (rounds_mul x factor).between
    (mulLow ▸ rounds_mul low factor) (mulHigh ▸ rounds_mul high factor)
    (mul_le_mul_of_nonneg_right above positive.le) (mul_le_mul_of_nonneg_right below positive.le)
  obtain ⟨whole, near, wholeAbove, wholeBelow⟩ := (rounds_roundHalfAway scaled).between
    (nearLow ▸ rounds_roundHalfAway scaledLow) (nearHigh ▸ rounds_roundHalfAway scaledHigh)
    (halfAway_mono scaledAbove) (halfAway_mono scaledBelow)
  obtain ⟨w, div, least, most⟩ := (rounds_div whole nonzero).between
    (divLow ▸ rounds_div wholeLow nonzero) (divHigh ▸ rounds_div wholeHigh nonzero)
    (div_le_div_of_nonneg_right wholeAbove positive.le)
    (div_le_div_of_nonneg_right wholeBelow positive.le)
  exact ⟨w, (roundPlaces_finite power).mpr ⟨scaled, whole, mul, near, div⟩, least, most⟩

/-- The number at this many places is a whole number, and a binary64 number. -/
def IsExactAt (places : Nat) (x : Binary64) : Prop :=
  ∃ (k : Int) (y : Binary64), x.value * 10 ^ places = k ∧ y.value = k

/-- A whole number is exact as long as 53 bits are enough for its multiple. -/
theorem isExactAt_int {n : Int} (whole : x.value = n)
    (bits : n.natAbs * 10 ^ places < 0x20000000000000) : IsExactAt places x := by
  obtain ⟨y, -, value⟩ := exists_ofNat bits
  have multiple : x.value * 10 ^ places = (n * 10 ^ places : Int) := by
    rw [whole]
    push_cast
    rfl
  obtain ⟨m, rfl | rfl⟩ := n.eq_nat_or_neg
  · refine ⟨_, y, multiple, ?_⟩
    rw [value]
    push_cast
    simp
  · refine ⟨_, y.neg, multiple, ?_⟩
    rw [value_neg, value]
    push_cast
    simp

theorem halfAway_int (k : Int) : halfAway k = k := by
  have whole (n : Nat) : ⌊(n : ℚ) + 1 / 2⌋₊ = n := by
    rw [Nat.floor_eq_iff (by positivity)]
    constructor <;> linarith
  unfold halfAway oddly
  dsimp only
  obtain ⟨n, rfl | rfl⟩ := k.eq_nat_or_neg
  · rw [if_neg (by simp), Int.cast_natCast, whole]
  · rcases Nat.eq_zero_or_pos n with rfl | positive
    · norm_num
    · rw [if_pos (by simpa using positive), Int.cast_neg, Int.cast_natCast, neg_neg, whole]

theorem roundPlaces_exact (few : places ≤ 15) (exact_places : IsExactAt places x) :
    ∃ y, x.roundPlaces places = .finite y ∧ y.value = x.value := by
  obtain ⟨factor, power, value, nonzero⟩ := exists_factor few
  obtain ⟨k, y, multiple, number⟩ := exact_places
  have product := rounds_mul x factor
  rw [value, multiple, ← number] at product
  obtain ⟨scaled, mul, scaledValue⟩ := product.exact_value
  have nearestWhole := rounds_roundHalfAway scaled
  rw [scaledValue, number, halfAway_int, ← number] at nearestWhole
  obtain ⟨whole, near, wholeValue⟩ := nearestWhole.exact_value
  have quotient := rounds_div whole nonzero
  have back : whole.value / factor.value = x.value := by
    rw [wholeValue, number, ← multiple, value, mul_div_cancel_right₀ _ (by positivity)]
  rw [back] at quotient
  obtain ⟨w, div, result⟩ := quotient.exact_value
  exact ⟨w, (roundPlaces_finite power).mpr ⟨scaled, whole, mul, near, div⟩, result⟩

/-! ### Text with places -/

def unsignedValue? (text : List Char) : Option ℚ :=
  let whole := text.takeWhile Char.isDigit
  match text.dropWhile Char.isDigit with
  | [] => if whole.isEmpty then none else some (Nat.ofDigitChars 10 whole 0)
  | '.' :: fraction =>
    if whole.isEmpty || fraction.isEmpty || !fraction.all Char.isDigit then none
    else some ((Nat.ofDigitChars 10 (whole ++ fraction) 0 : ℚ) / 10 ^ fraction.length)
  | _ => none

/-- The value of a decimal with an optional sign in front. -/
def decimalValue? (text : String) : Option ℚ :=
  match text.toList with
  | '-' :: rest => (unsignedValue? rest).map fun q => -q
  | rest => unsignedValue? rest

def fixedValue (places : Nat) (x : Binary64) : ℚ :=
  let scaled := divNearestEven (x.magnitude * Nat.pow 10 places) unitsPerOne
  if x.negative then -((scaled : ℚ) / 10 ^ places) else scaled / 10 ^ places

theorem unsignedValue?_whole {whole : List Char} (inhabited : whole ≠ [])
    (digits : ∀ c ∈ whole, c.isDigit) :
    unsignedValue? whole = some (Nat.ofDigitChars 10 whole 0) := by
  have taken : whole.takeWhile Char.isDigit = whole := List.takeWhile_eq_self_iff.mpr digits
  have dropped : whole.dropWhile Char.isDigit = [] := List.dropWhile_eq_nil_iff.mpr digits
  unfold unsignedValue?
  rw [taken, dropped]
  simp [inhabited]

theorem unsignedValue?_point {whole fraction : List Char} (inhabited : whole ≠ [])
    (behind : fraction ≠ []) (digits : ∀ c ∈ whole, c.isDigit)
    (others : ∀ c ∈ fraction, c.isDigit) :
    unsignedValue? (whole ++ '.' :: fraction) =
      some ((Nat.ofDigitChars 10 (whole ++ fraction) 0 : ℚ) / 10 ^ fraction.length) := by
  have taken : (whole ++ '.' :: fraction).takeWhile Char.isDigit = whole := by
    rw [List.takeWhile_append_of_pos digits, List.takeWhile_cons_of_neg (by decide), List.append_nil]
  have dropped : (whole ++ '.' :: fraction).dropWhile Char.isDigit = '.' :: fraction := by
    rw [List.dropWhile_append_of_pos digits, List.dropWhile_cons_of_neg (by decide)]
  have all : fraction.all Char.isDigit = true := List.all_eq_true.mpr others
  unfold unsignedValue?
  rw [taken, dropped]
  simp [inhabited, behind, all]

theorem decimalValue?_signed (negative : Bool) {text : List Char} {q : ℚ}
    (starts : ∃ c rest, text = c :: rest ∧ c.isDigit) (value : unsignedValue? text = some q) :
    decimalValue? ((if negative then "-" else "") ++ String.ofList text) =
      some (if negative then -q else q) := by
  obtain ⟨c, rest, rfl, digit⟩ := starts
  cases negative with
  | true =>
    have chars : ((if true then "-" else "") ++ String.ofList (c :: rest)).toList =
        '-' :: c :: rest := by
      simp
    rw [decimalValue?, chars]
    show (unsignedValue? (c :: rest)).map (fun q => -q) = some (-q)
    rw [value]
    rfl
  | false =>
    have chars : ((if false then "-" else "") ++ String.ofList (c :: rest)).toList = c :: rest := by
      simp
    have unsigned : c ≠ '-' := by
      rintro rfl
      exact absurd digit (by decide)
    rw [decimalValue?, chars]
    split
    · rename_i same
      exact absurd (List.cons.inj same).1 unsigned
    · exact value

theorem decimalValue?_fixedText (x : Binary64) (places : Nat) :
    decimalValue? (x.fixedText places) = some (fixedValue places x) := by
  unfold Binary64.fixedText fixedValue
  dsimp only
  generalize divNearestEven (x.magnitude * Nat.pow 10 places) unitsPerOne = scaled
  generalize padding : List.replicate (places + 1 - (Nat.toDigits 10 scaled).length) '0' ++
    Nat.toDigits 10 scaled = padded
  have digits : ∀ c ∈ padded, c.isDigit := by
    intro c member
    rw [← padding, List.mem_append, List.mem_replicate] at member
    rcases member with ⟨_, rfl⟩ | digit
    · decide
    · exact Nat.isDigit_of_mem_toDigits (by decide) (by decide) digit
  have value : Nat.ofDigitChars 10 padded 0 = scaled := by
    rw [← padding, Nat.ofDigitChars_append, Nat.ofDigitChars_replicate_zero, Nat.mul_zero,
      Nat.ofDigitChars_ten_toDigits]
  have length : places + 1 ≤ padded.length := by
    rw [← padding, List.length_append, List.length_replicate]
    omega
  have whole : padded.take (padded.length - places) ≠ [] := by
    intro none
    have count := congrArg List.length none
    rw [List.length_take, List.length_nil] at count
    omega
  have front : ∀ c ∈ padded.take (padded.length - places), c.isDigit :=
    fun c member => digits c (List.mem_of_mem_take member)
  have starts (rest : List Char) : ∃ c more,
      padded.take (padded.length - places) ++ rest = c :: more ∧ c.isDigit := by
    obtain ⟨c, more, same⟩ := List.exists_cons_of_ne_nil whole
    exact ⟨c, more ++ rest, by rw [same]; rfl, front c (by rw [same]; exact List.mem_cons_self)⟩
  by_cases none : places = 0
  · subst none
    have all : padded.take (padded.length - 0) = padded := by simp
    have shown := decimalValue?_signed x.negative (starts [])
      (by rw [List.append_nil]; exact unsignedValue?_whole whole front)
    rw [List.append_nil, all] at shown
    rw [if_pos rfl, all, String.append_empty, shown, value]
    simp
  · rw [if_neg none]
    have point : String.ofList ('.' :: padded.drop (padded.length - places)) =
        "." ++ String.ofList (padded.drop (padded.length - places)) := by
      rw [← String.toList_inj]
      simp
    have behind : padded.drop (padded.length - places) ≠ [] := by
      intro empty
      have count := congrArg List.length empty
      rw [List.length_drop, List.length_nil] at count
      omega
    have shown := decimalValue?_signed x.negative
      (starts ('.' :: padded.drop (padded.length - places)))
      (unsignedValue?_point whole behind front
        fun c member => digits c (List.mem_of_mem_drop member))
    rw [List.take_append_drop, value, List.length_drop,
      show padded.length - (padded.length - places) = places by omega, String.ofList_append, point,
      ← String.append_assoc] at shown
    exact shown

theorem fixedValue_mono {y : Binary64} (ordered : x.value ≤ y.value) :
    fixedValue places x ≤ fixedValue places y := by
  have nonneg (n : Nat) : 0 ≤ (n : ℚ) / 10 ^ places := by positivity
  have scaled {m n : Nat} (less : (m : ℚ) / unitsPerOne ≤ n / unitsPerOne) :
      (divNearestEven (m * Nat.pow 10 places) unitsPerOne : ℚ) / 10 ^ places ≤
        divNearestEven (n * Nat.pow 10 places) unitsPerOne / 10 ^ places := by
    rw [div_le_div_iff_of_pos_right unitsPerOne_pos_rat, Nat.cast_le] at less
    rw [div_le_div_iff_of_pos_right (by positivity), Nat.cast_le]
    exact divNearestEven_mono _ (Nat.mul_le_mul_right _ less)
  have magnitudeX := magnitude_div_nonneg x.magnitude
  have magnitudeY := magnitude_div_nonneg y.magnitude
  rw [value_of_magnitude, value_of_magnitude] at ordered
  unfold fixedValue
  dsimp only
  cases negativeX : x.negative <;> cases negativeY : y.negative <;>
    simp only [negativeX, negativeY, if_true, Bool.false_eq_true, if_false] at ordered ⊢
  case false.false => exact scaled ordered
  case true.true => exact neg_le_neg (scaled (neg_le_neg_iff.mp ordered))
  case true.false =>
    have left := nonneg (divNearestEven (x.magnitude * Nat.pow 10 places) unitsPerOne)
    have right := nonneg (divNearestEven (y.magnitude * Nat.pow 10 places) unitsPerOne)
    linarith
  case false.true =>
    -- Both numbers are zero.
    have up := scaled (n := y.magnitude) (show (x.magnitude : ℚ) / unitsPerOne ≤ _ by linarith)
    have none := scaled (m := y.magnitude) (n := 0) (by rw [Nat.cast_zero, zero_div]; linarith)
    rw [Nat.zero_mul, show divNearestEven 0 unitsPerOne = 0 by simp [divNearestEven]] at none
    rw [Nat.cast_zero, zero_div] at none
    linarith

theorem fixedValue_exact (exact_places : IsExactAt places x) : fixedValue places x = x.value := by
  obtain ⟨k, y, multiple, number⟩ := exact_places
  have power : ((Nat.pow 10 places : Nat) : ℚ) = 10 ^ places := by
    rw [Nat.pow_eq, Nat.cast_pow]
    rfl
  have count : x.magnitude * Nat.pow 10 places = k.natAbs * unitsPerOne := by
    have absolute := congrArg abs multiple
    rw [abs_mul, abs_value, abs_of_pos (by positivity : (0 : ℚ) < 10 ^ places), div_mul_eq_mul_div,
      div_eq_iff unitsPerOne_pos_rat.ne', ← Int.cast_abs, Int.abs_eq_natAbs, Int.cast_natCast,
      ← power] at absolute
    exact_mod_cast absolute
  have value : (k.natAbs : ℚ) / 10 ^ places = x.magnitude / unitsPerOne := by
    rw [div_eq_div_iff (by positivity) unitsPerOne_pos_rat.ne', ← power]
    exact_mod_cast count.symm
  unfold fixedValue
  dsimp only
  rw [count, divNearestEven_mul _ unitsPerOne_pos, value, ← value_of_magnitude]

end

end MockData
