import Mathlib.Data.List.Nodup
import MockData.Generation.Records

/-!
# Seeds of records

The seed of a record comes from the seed of the run and the index of the record in steps that can
each be undone: an exclusive or with a word, a multiplication by an odd word, and an exclusive or of
a word with its own upper bits. So the records of a run have seeds of their own, and so has a record
in runs of different seeds: `recordSeed_bijective`.
-/

namespace MockData

open Function

/-- A factor that has an inverse can be taken back. -/
theorem mul_word_bijective {a b : UInt64} (inverse : a * b = 1) :
    Bijective fun x : UInt64 => x * a := by
  have undone {c d : UInt64} (one : c * d = 1) (x : UInt64) : x * c * d = x := by
    rw [UInt64.mul_assoc, one, UInt64.mul_one]
  refine bijective_iff_has_inverse.mpr ⟨fun y => y * b, undone inverse, undone ?_⟩
  rw [UInt64.mul_comm, inverse]

theorem xor_word_bijective (a : UInt64) : Bijective fun x : UInt64 => a ^^^ x := by
  have twice : Involutive fun x : UInt64 => a ^^^ x := by
    intro x
    show a ^^^ (a ^^^ x) = x
    rw [← UInt64.xor_assoc, UInt64.xor_self, UInt64.zero_xor]
  exact twice.bijective

/-- Bits that are laid over the lower ones twice are laid over those twice as far below. -/
theorem xor_shift_twice {w : Nat} (x : BitVec w) (n : Nat) :
    x ^^^ x >>> n ^^^ (x ^^^ x >>> n) >>> n = x ^^^ x >>> (n + n) := by
  rw [BitVec.ushiftRight_xor_distrib, ← BitVec.shiftRight_add, BitVec.xor_assoc,
    ← BitVec.xor_assoc (x >>> n), BitVec.xor_self, BitVec.zero_xor]

def overlaid (x : UInt64) : UInt64 := x ^^^ (x >>> 29)

theorem toBitVec_overlaid (x : UInt64) :
    (overlaid x).toBitVec = x.toBitVec ^^^ x.toBitVec >>> 29 := rfl

theorem toBitVec_overlaid_twice (x : UInt64) :
    (overlaid (overlaid x)).toBitVec = x.toBitVec ^^^ x.toBitVec >>> 58 := by
  rw [toBitVec_overlaid, toBitVec_overlaid, xor_shift_twice]

theorem overlaid_four_times (x : UInt64) : overlaid (overlaid (overlaid (overlaid x))) = x := by
  apply UInt64.toBitVec_inj.mp
  rw [toBitVec_overlaid_twice, toBitVec_overlaid_twice, xor_shift_twice]
  -- Nothing is left of a word after 116 places.
  rw [BitVec.ushiftRight_eq_zero (by decide), BitVec.xor_zero]

theorem overlaid_bijective : Bijective overlaid :=
  bijective_iff_has_inverse.mpr
    ⟨fun y => overlaid (overlaid (overlaid y)), overlaid_four_times, overlaid_four_times⟩

theorem recordSeed_eq (seed index : UInt64) : recordSeed seed index =
    overlaid ((seed ^^^ index * 0x9e3779b97f4a7c15) * 0x100000001b3) := rfl

/-- The word that is mixed with an index is spread in a way that can be undone. -/
theorem spread_bijective : Bijective fun x : UInt64 => overlaid (x * 0x100000001b3) :=
  overlaid_bijective.comp
    (mul_word_bijective (show 0x100000001b3 * 0xce965057aff6957b = (1 : UInt64) by decide))

theorem recordSeed_index_bijective (seed : UInt64) : Bijective (recordSeed seed) := by
  have placed := mul_word_bijective
    (show 0x9e3779b97f4a7c15 * 0xf1de83e19937733d = (1 : UInt64) by decide)
  exact spread_bijective.comp ((xor_word_bijective seed).comp placed)

theorem recordSeed_seed_bijective (index : UInt64) :
    Bijective fun seed => recordSeed seed index := by
  have mixed : (fun seed => recordSeed seed index) = fun seed =>
      overlaid ((index * 0x9e3779b97f4a7c15 ^^^ seed) * 0x100000001b3) := by
    funext seed
    rw [recordSeed_eq, UInt64.xor_comm]
  rw [mixed]
  exact spread_bijective.comp (xor_word_bijective (index * 0x9e3779b97f4a7c15))

/-- The indices below the count of a document are different words. -/
theorem nodup_indices (count : UInt64) : ((List.range count.toNat).map UInt64.ofNat).Nodup := by
  have word {i : Nat} (listed : i ∈ List.range count.toNat) : (UInt64.ofNat i).toNat = i :=
    UInt64.toNat_ofNat_of_lt' (Nat.lt_trans (List.mem_range.mp listed) count.toNat_lt_size)
  refine List.nodup_range.map_on fun i one j other same => ?_
  rw [← word one, ← word other, same]

/-- For a seed of the run every word is the seed of exactly one index, and for an index it is that
of exactly one seed of the run. So the records of a run have different seeds, and a record has
different seeds in runs whose seeds differ. -/
theorem recordSeed_bijective :
    (∀ seed, Bijective (recordSeed seed)) ∧
    (∀ index, Bijective fun seed => recordSeed seed index) ∧
    (∀ (context : RunContext) (document : Document),
      ((List.range document.count.toNat).map fun i =>
        recordSeed context.seed (UInt64.ofNat i)).Nodup) ∧
    ∀ index seed other, recordSeed seed index = recordSeed other index ↔ seed = other := by
  refine ⟨recordSeed_index_bijective, recordSeed_seed_bijective, fun context document => ?_,
    fun index seed other => (recordSeed_seed_bijective index).injective.eq_iff⟩
  have different := nodup_indices document.count
  have spread := (recordSeed_index_bijective context.seed).injective
  have seeds := different.map spread
  rwa [List.map_map] at seeds

end MockData
