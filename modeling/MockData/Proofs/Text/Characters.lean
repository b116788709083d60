import Mathlib.Algebra.Ring.Nat
import MockData.Text.Basic

/-!
# Digits and capitals

Digits write a number below the power of ten that they have room for, and as many digits on both
sides are in the order of their numbers. A padded number is read back from its digits; so, where
numbers fit the width, their texts are in the order of the numbers (`padded_append_lt_iff`).

The capital of a small letter of the Latin alphabet is a letter that the small one is known from.
-/

namespace MockData

theorem toNat_digit {c : Char} (digit : c.isDigit) : 48 ≤ c.toNat ∧ c.toNat ≤ 57 := by
  unfold Char.isDigit at digit
  simp only [Bool.and_eq_true, decide_eq_true_eq] at digit
  exact digit

theorem ofDigitChars_lt {digits : List Char} (all : ∀ c ∈ digits, c.isDigit) (n : Nat) :
    Nat.ofDigitChars 10 digits n < (n + 1) * 10 ^ digits.length := by
  induction digits generalizing n with
  | nil => simp
  | cons c rest ih =>
    obtain ⟨digit, others⟩ := List.forall_mem_cons.mp all
    have one : c.toNat - '0'.toNat ≤ 9 := Nat.sub_le_of_le_add (toNat_digit digit).2
    rw [Nat.ofDigitChars_cons, List.length_cons, Nat.pow_succ, Nat.mul_comm _ 10, ← Nat.mul_assoc]
    refine Nat.lt_of_lt_of_le (ih others _) (Nat.mul_le_mul_right _ ?_)
    omega

theorem ofDigitChars_first (c : Char) (rest : List Char) : Nat.ofDigitChars 10 (c :: rest) 0 =
    10 ^ rest.length * (c.toNat - 48) + Nat.ofDigitChars 10 rest 0 := by
  rw [Nat.ofDigitChars_cons, Nat.ofDigitChars_eq_ofDigitChars_zero, Nat.mul_zero, Nat.zero_add]
  rfl

/-- Of numbers with two places the higher one decides, and then the lower one. -/
theorem places_lt_iff {unit a b m n : Nat} (left : m < unit) (right : n < unit) (P : Prop) :
    (unit * a + m < unit * b + n ∨ unit * a + m = unit * b + n ∧ P) ↔
      a < b ∨ a = b ∧ (m < n ∨ m = n ∧ P) := by
  rcases Nat.lt_trichotomy a b with less | rfl | more
  · have step : unit * a + unit ≤ unit * b := Nat.mul_le_mul_left unit less
    exact iff_of_true (.inl (by omega)) (.inl less)
  · simp
  · have step : unit * b + unit ≤ unit * a := Nat.mul_le_mul_left unit more
    refine iff_of_false ?_ ?_ <;> omega

/-- Of as many digits on both sides, the numbers decide, and only then what follows. -/
theorem digits_append_lt_iff {s t : List Char} (same : s.length = t.length)
    (left : ∀ c ∈ s, c.isDigit) (right : ∀ c ∈ t, c.isDigit) (x y : List Char) :
    s ++ x < t ++ y ↔ Nat.ofDigitChars 10 s 0 < Nat.ofDigitChars 10 t 0 ∨
      Nat.ofDigitChars 10 s 0 = Nat.ofDigitChars 10 t 0 ∧ x < y := by
  induction s generalizing t with
  | nil =>
    obtain rfl := List.eq_nil_of_length_eq_zero same.symm
    simp
  | cons c s ih =>
    cases t with
    | nil => exact nomatch same
    | cons d t =>
      obtain ⟨digit, digits⟩ := List.forall_mem_cons.mp left
      obtain ⟨other, others⟩ := List.forall_mem_cons.mp right
      have length : s.length = t.length := Nat.succ.inj same
      have small := ofDigitChars_lt digits 0
      have little := ofDigitChars_lt others 0
      have first := toNat_digit digit
      have second := toNat_digit other
      have less : c < d ↔ c.toNat - 48 < d.toNat - 48 := by
        change c.toNat < d.toNat ↔ _
        omega
      have equal : c = d ↔ c.toNat - 48 = d.toNat - 48 := by
        rw [← Char.toNat_inj]
        omega
      rw [length] at small
      rw [List.cons_append, List.cons_append, List.cons_lt_cons_iff, ih length digits others,
        ofDigitChars_first, ofDigitChars_first, length, places_lt_iff (by omega) (by omega), less,
        equal]

section

variable {width n m : Nat}

theorem isDigit_of_mem_padded {c : Char} (member : c ∈ (padded width n).toList) : c.isDigit := by
  simp only [padded, String.toList_ofList, List.mem_append, List.mem_replicate] at member
  rcases member with ⟨_, rfl⟩ | digit
  · decide
  · exact Nat.isDigit_of_mem_toDigits (by decide) (by decide) digit

theorem ofDigitChars_padded (width n : Nat) :
    Nat.ofDigitChars 10 (padded width n).toList 0 = n := by
  rw [padded, String.toList_ofList, Nat.ofDigitChars_append, Nat.ofDigitChars_replicate_zero,
    Nat.mul_zero, Nat.ofDigitChars_ten_toDigits]

theorem length_padded (some : 0 < width) (fits : n < 10 ^ width) :
    (padded width n).toList.length = width := by
  have short := (Nat.length_toDigits_le_iff (by decide) some).mpr fits
  rw [padded, String.toList_ofList, List.length_append, List.length_replicate,
    Nat.sub_add_cancel short]

theorem padded_append_lt_iff (some : 0 < width) (fits : n < 10 ^ width) (other : m < 10 ^ width)
    (x y : List Char) :
    (padded width n).toList ++ x < (padded width m).toList ++ y ↔ n < m ∨ n = m ∧ x < y := by
  have same : (padded width n).toList.length = (padded width m).toList.length := by
    rw [length_padded some fits, length_padded some other]
  rw [digits_append_lt_iff same (fun _ => isDigit_of_mem_padded) (fun _ => isDigit_of_mem_padded),
    ofDigitChars_padded, ofDigitChars_padded]

end

namespace Text

theorem isLower_iff {c : Char} : c.isLower = true ↔ 97 ≤ c.toNat ∧ c.toNat ≤ 122 := by
  change (decide (97 ≤ c.toNat) && decide (c.toNat ≤ 122)) = true ↔ _
  rw [Bool.and_eq_true, decide_eq_true_eq, decide_eq_true_eq]

theorem toNat_toUpper {c : Char} (lower : c.isLower) : c.toUpper.toNat + 32 = c.toNat := by
  obtain ⟨least, most⟩ := isLower_iff.mp lower
  have letter : 'a'.val ≤ c.val ∧ c.val ≤ 'z'.val :=
    ⟨UInt32.le_iff_toNat_le.mpr least, UInt32.le_iff_toNat_le.mpr most⟩
  have raised : c.toUpper.val = c.val + ('A'.val - 'a'.val) := by
    delta Char.toUpper
    rw [dif_pos letter]
  have sum : c.toUpper.toNat = (c.toNat + 4294967264) % 4294967296 :=
    (congrArg UInt32.toNat raised).trans (UInt32.toNat_add c.val ('A'.val - 'a'.val))
  omega

theorem isUpper_toUpper {c : Char} (lower : c.isLower) : c.toUpper.isUpper := by
  have bounds := isLower_iff.mp lower
  have value := toNat_toUpper lower
  have least : 65 ≤ c.toUpper.toNat := by omega
  have most : c.toUpper.toNat ≤ 90 := by omega
  exact decide_eq_true ⟨UInt32.le_iff_toNat_le.mpr least, UInt32.le_iff_toNat_le.mpr most⟩

theorem toUpper_inj {c d : Char} (lower : c.isLower) (other : d.isLower)
    (same : c.toUpper = d.toUpper) : c = d := by
  have first := toNat_toUpper lower
  have second := toNat_toUpper other
  rw [same] at first
  exact Char.toNat_inj.mp (by omega)

end Text

end MockData
