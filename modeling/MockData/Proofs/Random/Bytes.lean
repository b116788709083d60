import Mathlib.Algebra.Ring.Nat
import MockData.Random.ChaCha8

/-!
# Bytes from a source

A source is exact if it gives as many bytes as it is asked for. The stream of ChaCha8 and the
scripts are, and the bytes of a script may be any at all.
-/

namespace MockData

/-- The source gives as many bytes as it is asked for. -/
class ExactSource (σ : Type) [RandomSource σ] : Prop where
  length_bytes (n : Nat) (s : σ) : (RandomSource.bytes n s).1.length = n

namespace ChaCha8

theorem length_wordBytes (w : UInt32) : (wordBytes w).length = 4 := rfl

theorem length_takeWords (n : Nat) (s : ChaCha8) : (takeWords n s).1.length = n := by
  induction n generalizing s with
  | zero => rfl
  | succ n ih => exact congrArg (· + 1) (ih s.next.2)

instance : ExactSource ChaCha8 where
  length_bytes n s := by
    change (((takeWords ((n + 3) / 4) s).1.flatMap wordBytes).take n).length = n
    simp only [List.length_take, List.length_flatMap, length_wordBytes, List.map_const',
      List.sum_replicate_nat, length_takeWords]
    omega

end ChaCha8

namespace Script

theorem length_wordBytes (w : UInt64) : (wordBytes w).length = 8 := by simp [wordBytes]

instance : ExactSource Script where
  length_bytes n s := by
    change (s.takeBytes n).1.length = n
    simp only [takeBytes, List.length_take, List.length_flatMap, length_wordBytes,
      List.map_const', List.sum_replicate_nat, List.length_map, List.length_range]
    omega

/-! ### Scripts for given bytes -/

def ofBytes : List UInt8 → Nat
  | [] => 0
  | b :: rest => b.toNat + 256 * ofBytes rest

theorem ofBytes_lt (bytes : List UInt8) : ofBytes bytes < 256 ^ bytes.length := by
  induction bytes with
  | nil => decide
  | cons b rest ih =>
    have byte := b.toNat_lt
    rw [ofBytes, List.length_cons, Nat.pow_succ]
    omega

theorem byte_ofBytes (bytes : List UInt8) (i : Nat) :
    ofBytes bytes / 256 ^ i % 256 = (bytes.getD i 0).toNat := by
  induction bytes generalizing i with
  | nil => simp [ofBytes]
  | cons b rest ih =>
    have byte := b.toNat_lt
    cases i with
    | zero =>
      simp only [ofBytes, Nat.pow_zero, Nat.div_one, List.getD_cons_zero]
      omega
    | succ i =>
      have behind : (b.toNat + 256 * ofBytes rest) / 256 = ofBytes rest := by omega
      rw [ofBytes, Nat.pow_succ', ← Nat.div_div_eq_div_mul, behind, ih, List.getD_cons_succ]

theorem wordBytes_ofBytes {bytes : List UInt8} (short : bytes.length ≤ 8) :
    wordBytes (UInt64.ofNat (ofBytes bytes)) = (List.range 8).map fun i => bytes.getD i 0 := by
  have word : ofBytes bytes < 2 ^ 64 := by
    have most : 256 ^ bytes.length ≤ 256 ^ 8 := Nat.pow_le_pow_right (by decide) short
    exact Nat.lt_of_lt_of_le (ofBytes_lt bytes) most
  apply List.map_congr_left
  intro i member
  have inside := List.mem_range.mp member
  apply UInt8.toNat_inj.mp
  have places : (8 * i).toUInt64.toNat % 64 = 8 * i := by
    rw [UInt64.toNat_ofNat_of_lt' (by simp only [UInt64.size]; omega)]
    omega
  rw [UInt64.toNat_toUInt8, UInt64.toNat_shiftRight, places,
    UInt64.toNat_ofNat_of_lt' word, Nat.shiftRight_eq_div_pow, Nat.pow_mul]
  exact byte_ofBytes bytes i

/-- The numbers below a multiple of `k` in rows of `k`. -/
theorem range_mul {α : Type} (f : Nat → α) (k n : Nat) :
    (List.range n).flatMap (fun i => (List.range k).map fun j => f (k * i + j)) =
      (List.range (k * n)).map f := by
  induction n with
  | zero => simp
  | succ n ih => simp [List.range_succ, ih, Nat.mul_succ, List.range_add, Function.comp_def]

def ofByteList (bytes : List UInt8) : Script :=
  ⟨fun i => UInt64.ofNat (ofBytes ((bytes.drop (8 * i)).take 8)), 0⟩

theorem bytes_ofByteList (bytes : List UInt8) :
    (RandomSource.bytes bytes.length (ofByteList bytes)).1 = bytes := by
  have row (i : Nat) : wordBytes ((ofByteList bytes).word (0 + i)) =
      (List.range 8).map fun j => bytes.getD (8 * i + j) 0 := by
    rw [Nat.zero_add]
    refine (wordBytes_ofBytes (List.length_take_le _ _)).trans (List.map_congr_left ?_)
    intro j member
    have inside := List.mem_range.mp member
    simp [List.getD_eq_getElem?_getD, List.getElem?_take_of_lt inside]
  have enough : bytes.length ≤ 8 * ((bytes.length + 7) / 8) := by omega
  change ((((List.range _).map fun i => (ofByteList bytes).word (0 + i)).flatMap
    wordBytes).take bytes.length) = bytes
  rw [List.flatMap_map, funext row, range_mul (fun i => bytes.getD i 0), ← List.map_take,
    List.take_range, Nat.min_eq_left enough]
  apply List.ext_getElem (by simp)
  intro i _ inside
  simp [List.getD_eq_getElem?_getD, inside]

end Script

end MockData
