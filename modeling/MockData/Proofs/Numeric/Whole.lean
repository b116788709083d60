import MockData.Document.Schema
import MockData.Document.Spec

/-!
# Whole numbers

`JsonNumber.HasValue` says that a number is a whole one, read exactly: an integer is itself, and a
binary64 number is a count of its smallest unit. The schema of documents and the reader of counts
both go by this value.
-/

namespace MockData

namespace Binary64

theorem unitsPerOne_pos : 0 < unitsPerOne := by decide +kernel

theorem units_one : one.units = unitsPerOne := by decide +kernel

theorem natAbs_units (x : Binary64) : x.units.natAbs = x.magnitude := by
  unfold units
  split <;> omega

theorem isIntegral_iff (x : Binary64) : x.isIntegral ↔ ∃ n : Int, x.units = n * unitsPerOne := by
  unfold isIntegral
  rw [beq_iff_eq, ← natAbs_units, ← Nat.dvd_iff_mod_eq_zero, ← Int.ofNat_dvd_left, Int.dvd_def]
  exact exists_congr fun n => by rw [Int.mul_comm]

theorem magnitude_of_units {x : Binary64} {n : Int} (value : x.units = n * unitsPerOne) :
    x.magnitude = n.natAbs * unitsPerOne := by
  rw [← natAbs_units, value, Int.natAbs_mul, Int.natAbs_natCast]

theorem floorMagnitude_of_units {x : Binary64} {n : Int} (value : x.units = n * unitsPerOne) :
    x.floorMagnitude = n.natAbs := by
  rw [floorMagnitude, magnitude_of_units value, Nat.mul_div_cancel _ unitsPerOne_pos]

theorem one_le_iff {x : Binary64} {n : Int} (value : x.units = n * unitsPerOne) :
    one.le x ↔ 1 ≤ n := by
  have positive : (0 : Int) < unitsPerOne := Int.natCast_pos.mpr unitsPerOne_pos
  rw [le, decide_eq_true_iff, value, units_one]
  constructor
  · intro least
    exact Int.le_of_mul_le_mul_right (by rwa [Int.one_mul]) positive
  · intro least
    have scaled := Int.mul_le_mul_of_nonneg_right least (Int.le_of_lt positive)
    rwa [Int.one_mul] at scaled

end Binary64

namespace JsonNumber

def HasValue : JsonNumber → Int → Prop
  | .int m _, n => m = n
  | .float x, n => x.units = n * Binary64.unitsPerOne

theorem HasValue.unique {number : JsonNumber} {m n : Int} (one : number.HasValue m)
    (other : number.HasValue n) : m = n := by
  cases number with
  | int k fits => exact one.symm.trans other
  | float x =>
    have nonzero : (Binary64.unitsPerOne : Int) ≠ 0 :=
      Int.natCast_ne_zero.mpr (Nat.ne_of_gt Binary64.unitsPerOne_pos)
    exact Int.eq_of_mul_eq_mul_right nonzero (one.symm.trans other)

end JsonNumber

open JsonNumber

theorem DocumentSchema.isWhole_iff (number : JsonNumber) :
    isWhole (.number number) ↔ ∃ n, number.HasValue n := by
  cases number with
  | int m fits => exact iff_of_true rfl ⟨m, rfl⟩
  | float x => exact x.isIntegral_iff

theorem DocumentSchema.isBelowOne_iff {number : JsonNumber} {n : Int} (value : number.HasValue n) :
    isBelowOne (.number number) ↔ n < 1 := by
  cases number with
  | int m fits =>
    obtain rfl : m = n := value
    exact decide_eq_true_iff
  | float x =>
    rw [← Int.not_le, ← Binary64.one_le_iff value]
    simp [isBelowOne, Binary64.lt, Binary64.le]

/-- A positive count is read if and only if it fits a word. -/
theorem DocumentSpec.countOf?_eq {number : JsonNumber} {n : Nat} (value : number.HasValue n)
    (positive : 1 ≤ n) :
    countOf? number = if n < 0x10000000000000000 then some (UInt64.ofNat n) else none := by
  cases number with
  | int m fits =>
    obtain rfl : m = n := value
    rw [countOf?, if_pos (by omega), if_pos (by omega), Int.toNat_natCast]
  | float x =>
    have whole : x.isIntegral := x.isIntegral_iff.mpr ⟨n, value⟩
    have least : Binary64.one.le x := (Binary64.one_le_iff value).mpr (by omega)
    have fits : (x.isIntegral && Binary64.one.le x && x.floorMagnitude < 0x10000000000000000) =
        decide (n < 0x10000000000000000) := by
      rw [whole, least, Binary64.floorMagnitude_of_units value]
      rfl
    unfold countOf?
    dsimp only
    rw [fits, Binary64.floorMagnitude_of_units value, Int.natAbs_natCast]
    simp only [decide_eq_true_iff]

end MockData
