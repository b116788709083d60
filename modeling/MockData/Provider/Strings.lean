import MockData.Pattern.Sampler
import MockData.Provider.Basic
import MockData.Vocabulary.Basic

/-!
# Strings

Identifiers, strings over an alphabet and strings that match a pattern.
-/

namespace MockData

namespace Strings

variable {σ : Type} [RandomSource σ]

def hexByte (b : UInt8) : List Char :=
  [Nat.digitChar (b.toNat / 16), Nat.digitChar (b.toNat % 16)]

/-- Marks sixteen bytes as a random identifier: version 4 in the seventh byte, the variant in the
ninth. -/
def markVersion : List UInt8 → List UInt8
  | b0 :: b1 :: b2 :: b3 :: b4 :: b5 :: b6 :: b7 :: b8 :: rest =>
    b0 :: b1 :: b2 :: b3 :: b4 :: b5 :: ((b6 &&& 0x0f) ||| 0x40) :: b7 ::
      ((b8 &&& 0x3f) ||| 0x80) :: rest
  | bytes => bytes

/-- Hexadecimal digits in groups of eight, four, four, four and twelve. -/
def uuidText (bytes : List UInt8) : String :=
  let digits := bytes.flatMap hexByte
  String.ofList (digits.take 8 ++ '-' :: (digits.drop 8).take 4 ++ '-' :: (digits.drop 12).take 4 ++
    '-' :: (digits.drop 16).take 4 ++ '-' :: digits.drop 20)

def uuid : Provider σ := .planned "string.uuid" [] fun _ _ =>
  .ok fun _ => do return .string (uuidText (markVersion (← Draw.bytes 16)))

def letters : List Char := "abcdefghijklmnopqrstuvwxyzABCDEFGHIJKLMNOPQRSTUVWXYZ".toList

def digits : List Char := "0123456789".toList

def pickChar (alphabet : List Char) : Draw σ Char := do
  return alphabet.getD (← Draw.index alphabet.length) 'a'

def alphabetParameters : List Parameter := [⟨"length", .count, false⟩]

def fromAlphabet (path : String) (alphabet : List Char) : Provider σ :=
  .planned path alphabetParameters fun _ a => .drawing (!alphabet.isEmpty) fun _ => do
    let length := ((a.count? "length").getD 1).toNat
    return .string (String.ofList (← Draw.replicate length (pickChar alphabet)))

def alpha : Provider σ := fromAlphabet "string.alpha" letters

def alphanumeric : Provider σ := fromAlphabet "string.alphanumeric" (letters ++ digits)

def numeric : Provider σ := fromAlphabet "string.numeric" digits

def patternParameters : List Parameter :=
  [⟨"pattern", .string, true⟩, ⟨"maxRepeat", .count, false⟩]

/-- A repetition without an upper bound exceeds its lower bound by 32 at most, unless told
otherwise. -/
def pattern : Provider σ := .planned "string.pattern" patternParameters fun _ a =>
  match a.string? "pattern" with
  | none => .error (.because "requires params.pattern")
  | some text =>
    let maxRepeat := ((a.count? "maxRepeat").map UInt64.toNat).getD 32
    if maxRepeat = 0 then .error (.because "maxRepeat must be > 0")
    else if 0x100000000 ≤ maxRepeat then .error (.because "maxRepeat must fit u32")
    else
      match Pattern.Sampler.ofPattern text maxRepeat with
      | .error fault => .error (.because ("invalid regex pattern: " ++ fault.text))
      | .ok sampler => .ok fun _ => do return .string (String.ofList (← sampler.draw))

end Strings

end MockData
