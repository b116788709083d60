import MockData.Proofs.Provider.Builtin
import MockData.Proofs.Provider.ContextUse
import MockData.Proofs.Random.Bytes
import MockData.Proofs.Text.Split

/-!
# Random identifiers

The text of a random identifier has the form of version 4, and it shows all bits of the bytes that
were drawn apart from the six that the marks of version and variant are put over. The main result is
`uuid_version_four`.
-/

namespace MockData

namespace Strings

def hexDigits : List Char := "0123456789abcdef".toList

/-- Groups of eight, four, four, four and twelve digits; the third begins with the digit of the
version and the fourth with one of the variant. -/
structure IsVersionFour (text : String) : Prop where
  length : text.toList.length = 36
  groups : (Text.split '-' text.toList).map List.length = [8, 4, 4, 4, 12]
  digits : ∀ group ∈ Text.split '-' text.toList, ∀ d ∈ group, d ∈ hexDigits
  version : text.toList[14]? = some '4'
  variant : ∃ d ∈ ['8', '9', 'a', 'b'], text.toList[19]? = some d

/-- The four bits of the version and the two of the variant: which byte, and which bit of it. -/
def markBits : List (Nat × Nat) := [(6, 4), (6, 5), (6, 6), (6, 7), (8, 6), (8, 7)]

def bitAt (bytes : List UInt8) (byte bit : Nat) : Bool := (bytes.getD byte 0).toNat.testBit bit

/-- The bytes have the same bits, those of the version and of the variant apart. -/
def Alike (bytes others : List UInt8) : Prop :=
  ∀ byte < 16, ∀ bit < 8, (byte, bit) ∉ markBits → bitAt bytes byte bit = bitAt others byte bit

/-! ### Digits of bytes -/

theorem digitChar_mem : ∀ d < 16, Nat.digitChar d ∈ hexDigits := by decide

theorem digitChar_inj : ∀ d < 16, ∀ e < 16, Nat.digitChar d = Nat.digitChar e → d = e := by decide

theorem hexByte_mem {b : UInt8} : ∀ d ∈ hexByte b, d ∈ hexDigits := by
  have byte := b.toNat_lt
  simp only [hexByte, List.forall_mem_cons]
  exact ⟨digitChar_mem _ (by omega), digitChar_mem _ (by omega), List.forall_mem_nil _⟩

theorem hexByte_inj {b d : UInt8} (same : hexByte b = hexByte d) : b = d := by
  have byte := b.toNat_lt
  have other := d.toNat_lt
  obtain ⟨high, rest⟩ := List.cons.inj same
  obtain ⟨low, _⟩ := List.cons.inj rest
  have upper := digitChar_inj _ (by omega) _ (by omega) high
  have lower := digitChar_inj _ (by omega) _ (by omega) low
  exact UInt8.toNat_inj.mp (by omega)

theorem hexBytes_length (bytes : List UInt8) :
    (bytes.flatMap hexByte).length = 2 * bytes.length := by
  simp [List.length_flatMap, hexByte, Nat.mul_comm]

theorem hexBytes_mem {bytes : List UInt8} {d : Char} (member : d ∈ bytes.flatMap hexByte) :
    d ∈ hexDigits := by
  obtain ⟨b, _, inside⟩ := List.mem_flatMap.mp member
  exact hexByte_mem d inside

theorem hexBytes_inj {bytes others : List UInt8}
    (same : bytes.flatMap hexByte = others.flatMap hexByte) : bytes = others := by
  induction bytes generalizing others with
  | nil =>
    cases others with
    | nil => rfl
    | cons b rest => exact nomatch same
  | cons b rest ih =>
    cases others with
    | nil => exact nomatch same
    | cons d more =>
      rw [List.flatMap_cons, List.flatMap_cons] at same
      obtain ⟨first, behind⟩ := List.append_inj same rfl
      rw [hexByte_inj first, ih behind]

/-- The first digit of a byte. -/
theorem getElem?_hexBytes (bytes : List UInt8) (k : Nat) : (bytes.flatMap hexByte)[2 * k]? =
    bytes[k]?.map fun b => Nat.digitChar (b.toNat / 16) := by
  induction bytes generalizing k with
  | nil => rfl
  | cons b rest ih =>
    cases k with
    | zero => rfl
    | succ k => exact ih k

/-! ### Groups of digits -/

def groupsOf (digits : List Char) : List (List Char) :=
  [digits.take 8, (digits.drop 8).take 4, (digits.drop 12).take 4, (digits.drop 16).take 4,
    digits.drop 20]

theorem toList_uuidText (bytes : List UInt8) :
    (uuidText bytes).toList = ['-'].intercalate (groupsOf (bytes.flatMap hexByte)) := by
  simp [uuidText, groupsOf, List.intercalate_cons_cons]

theorem flatten_groupsOf (digits : List Char) : (groupsOf digits).flatten = digits := by
  have front := List.take_append_drop 8 digits
  have second := List.take_append_drop 4 (digits.drop 8)
  have third := List.take_append_drop 4 (digits.drop 12)
  have fourth := List.take_append_drop 4 (digits.drop 16)
  simp only [List.drop_drop, Nat.reduceAdd] at second third fourth
  simp only [groupsOf, List.flatten_cons, List.flatten_nil, List.append_nil]
  rw [fourth, third, second, front]

theorem length_groupsOf {digits : List Char} (length : digits.length = 32) :
    (groupsOf digits).map List.length = [8, 4, 4, 4, 12] := by
  simp [groupsOf, length]

theorem mem_of_groupsOf {digits group : List Char} (part : group ∈ groupsOf digits) {d : Char}
    (member : d ∈ group) : d ∈ digits := by
  rw [← flatten_groupsOf digits]
  exact List.mem_flatten.mpr ⟨group, part, member⟩

theorem split_uuidText (bytes : List UInt8) :
    Text.split '-' (uuidText bytes).toList = groupsOf (bytes.flatMap hexByte) := by
  rw [toList_uuidText]
  apply Text.split_intercalate (List.cons_ne_nil _ _)
  intro group part hyphen
  have digit := hexBytes_mem (mem_of_groupsOf part hyphen)
  exact absurd digit (by decide)

theorem uuidText_inj {bytes others : List UInt8} (same : uuidText bytes = uuidText others) :
    bytes = others := by
  have groups := congrArg (fun text => (Text.split '-' text.toList).flatten) same
  simp only [split_uuidText, flatten_groupsOf] at groups
  exact hexBytes_inj groups

/-! ### The marks -/

def markByte (i : Nat) (b : UInt8) : UInt8 :=
  if i = 6 then (b &&& 0x0f) ||| 0x40 else if i = 8 then (b &&& 0x3f) ||| 0x80 else b

theorem getElem?_markVersion {bytes : List UInt8} (long : 9 ≤ bytes.length) (i : Nat) :
    (markVersion bytes)[i]? = bytes[i]?.map (markByte i) := by
  match bytes, long with
  | b0 :: b1 :: b2 :: b3 :: b4 :: b5 :: b6 :: b7 :: b8 :: rest, _ =>
    match i with
    | 0 | 1 | 2 | 3 | 4 | 5 | 6 | 7 | 8 => rfl
    | i + 9 =>
      have same : markByte (i + 9) = id := by
        funext b
        unfold markByte
        rw [if_neg (by omega), if_neg (by omega)]
        rfl
      rw [same, Option.map_id]
      rfl

theorem length_markVersion (bytes : List UInt8) : (markVersion bytes).length = bytes.length := by
  unfold markVersion
  split <;> rfl

theorem testBit_overlaid (b m k : UInt8) (bit : Nat) : ((b &&& m) ||| k).toNat.testBit bit =
    (b.toNat.testBit bit && m.toNat.testBit bit || k.toNat.testBit bit) := by
  rw [UInt8.toNat_or, UInt8.toNat_and, Nat.testBit_or, Nat.testBit_and]

theorem eq_iff_testBit {b d : UInt8} :
    b = d ↔ ∀ bit < 8, b.toNat.testBit bit = d.toNat.testBit bit := by
  constructor
  · rintro rfl _ _
    rfl
  · intro same
    apply UInt8.toNat_inj.mp
    apply Nat.eq_of_testBit_eq
    intro bit
    by_cases inside : bit < 8
    · exact same bit inside
    · have large : 2 ^ 8 ≤ 2 ^ bit := Nat.pow_le_pow_right (by decide) (by omega)
      rw [Nat.testBit_lt_two_pow (Nat.lt_of_lt_of_le b.toNat_lt large),
        Nat.testBit_lt_two_pow (Nat.lt_of_lt_of_le d.toNat_lt large)]

/-- Two bytes are overlaid to the same if they agree where the mask leaves a bit as it is. -/
theorem overlaid_eq_iff {b d m k : UInt8} {Kept : Nat → Prop}
    (kept : ∀ bit < 8, Kept bit ↔ m.toNat.testBit bit = true ∧ k.toNat.testBit bit = false) :
    (b &&& m) ||| k = (d &&& m) ||| k ↔
      ∀ bit < 8, Kept bit → b.toNat.testBit bit = d.toNat.testBit bit := by
  rw [eq_iff_testBit]
  refine forall₂_congr fun bit inside => ?_
  rw [testBit_overlaid, testBit_overlaid, kept bit inside]
  cases m.toNat.testBit bit <;> cases k.toNat.testBit bit <;> simp

theorem markByte_eq_iff (i : Nat) (b d : UInt8) : markByte i b = markByte i d ↔
    ∀ bit < 8, (i, bit) ∉ markBits → b.toNat.testBit bit = d.toNat.testBit bit := by
  unfold markByte
  split
  · rename_i version
    subst version
    exact overlaid_eq_iff (by decide)
  · rename_i other
    split
    · rename_i variant
      subst variant
      exact overlaid_eq_iff (by decide)
    · rename_i another
      rw [eq_iff_testBit]
      simp [markBits, other, another]

theorem markVersion_eq_iff {bytes others : List UInt8} (length : bytes.length = 16)
    (same : others.length = 16) : markVersion bytes = markVersion others ↔ Alike bytes others := by
  have nine : 9 ≤ bytes.length := by omega
  have next : 9 ≤ others.length := by omega
  -- Every byte is marked on its own, so the bytes are compared one by one.
  have at_byte {i : Nat} (inside : i < 16) :
      (markVersion bytes)[i]? = (markVersion others)[i]? ↔
        ∀ bit < 8, (i, bit) ∉ markBits → bitAt bytes i bit = bitAt others i bit := by
    rw [getElem?_markVersion nine, getElem?_markVersion next,
      List.getElem?_eq_getElem (length ▸ inside), List.getElem?_eq_getElem (same ▸ inside),
      Option.map_some, Option.map_some, Option.some_inj, markByte_eq_iff]
    simp only [bitAt, List.getD_eq_getElem?_getD, List.getElem?_eq_getElem (length ▸ inside),
      List.getElem?_eq_getElem (same ▸ inside), Option.getD_some]
  rw [List.ext_getElem?_iff]
  constructor
  · intro equal i inside
    exact (at_byte inside).mp (equal i)
  · intro alike i
    by_cases inside : i < 16
    · exact (at_byte inside).mpr (alike i inside)
    · rw [List.getElem?_eq_none (by rw [length_markVersion]; omega),
        List.getElem?_eq_none (by rw [length_markVersion]; omega)]

/-! ### The text of sixteen bytes -/

theorem getElem?_uuidText {bytes : List UInt8} (length : bytes.length = 16) :
    (uuidText bytes).toList.length = 36 ∧
    (uuidText bytes).toList[14]? = bytes[6]?.map (fun b => Nat.digitChar (b.toNat / 16)) ∧
    (uuidText bytes).toList[19]? = bytes[8]?.map (fun b => Nat.digitChar (b.toNat / 16)) := by
  have digits := hexBytes_length bytes
  rw [← getElem?_hexBytes, ← getElem?_hexBytes]
  rw [length] at digits
  simp [uuidText, digits]

theorem high_overlaid (b m k : UInt8) : ((b &&& m) ||| k).toNat / 16 =
    (b.toNat / 16 &&& m.toNat / 16) ||| k.toNat / 16 := by
  have shift (n : Nat) : n / 16 = n >>> 4 := (Nat.shiftRight_eq_div_pow n 4).symm
  rw [UInt8.toNat_or, UInt8.toNat_and, shift, shift, shift, shift, Nat.shiftRight_or_distrib,
    Nat.shiftRight_and_distrib]

theorem version_digit (b : UInt8) : Nat.digitChar ((markByte 6 b).toNat / 16) = '4' := by
  rw [markByte, if_pos rfl, high_overlaid]
  change Nat.digitChar ((b.toNat / 16 &&& 0) ||| 4) = '4'
  rw [Nat.and_zero]
  rfl

theorem variant_digit (b : UInt8) :
    Nat.digitChar ((markByte 8 b).toNat / 16) ∈ ['8', '9', 'a', 'b'] := by
  rw [markByte, if_neg (by decide), if_pos rfl, high_overlaid]
  change Nat.digitChar ((b.toNat / 16 &&& 3) ||| 8) ∈ _
  have low : b.toNat / 16 &&& 3 < 4 := Nat.and_lt_two_pow (n := 2) _ (by decide)
  have digits : ∀ n < 4, Nat.digitChar (n ||| 8) ∈ ['8', '9', 'a', 'b'] := by decide
  exact digits _ low

theorem isVersionFour_uuidText {bytes : List UInt8} (length : bytes.length = 16) :
    IsVersionFour (uuidText (markVersion bytes)) := by
  have marked := (length_markVersion bytes).trans length
  have long : 9 ≤ bytes.length := by omega
  have digits := hexBytes_length (markVersion bytes)
  rw [marked] at digits
  obtain ⟨size, version, variant⟩ := getElem?_uuidText marked
  rw [getElem?_markVersion long, List.getElem?_eq_getElem (show 6 < bytes.length by omega),
    Option.map_some, Option.map_some, version_digit] at version
  rw [getElem?_markVersion long, List.getElem?_eq_getElem (show 8 < bytes.length by omega),
    Option.map_some, Option.map_some] at variant
  refine ⟨size, ?_, ?_, version, _, variant_digit _, variant⟩
  · rw [split_uuidText, length_groupsOf digits]
  · rw [split_uuidText]
    intro group part d member
    exact hexBytes_mem (mem_of_groupsOf part member)

/-! ### Calls -/

variable {σ : Type} [RandomSource σ] {c : RecordContext} {args : Option Json} {a : Arguments}

theorem uuid_drawn (accepted : Arguments.read [] args = .ok a) (s : σ) :
    (uuid c args s).1 = .ok (.string (uuidText (markVersion (RandomSource.bytes 16 s).1))) := by
  rw [uuid, Provider.planned_accepted accepted]
  rfl

/-- The text has the form of version 4 whatever is drawn. Two draws give the same text if and only
if they agree in all bits but those of the marks; and any sixteen bytes may be drawn. -/
theorem uuid_version_four [ExactSource σ] {p : Provider σ}
    (found : Builtin.registry.resolve "string.uuid" = .ok p)
    (accepted : Arguments.read [] args = .ok a) :
    (∀ s, ∃ text, (p c args s).1 = .ok (.string text) ∧ IsVersionFour text) ∧
    (∀ s t, (p c args s).1 = (p c args t).1 ↔
      Alike (RandomSource.bytes 16 s).1 (RandomSource.bytes 16 t).1) ∧
    ∀ bytes : List UInt8, bytes.length = 16 →
      ∃ s : Script, (RandomSource.bytes 16 s).1 = bytes := by
  obtain rfl := Builtin.eq_of_composed (q := uuid) (by simp [Builtin.composed]) found
  have sixteen (s : σ) := ExactSource.length_bytes 16 s
  refine ⟨fun s => ?_, fun s t => ?_, fun bytes length => ?_⟩
  · exact ⟨_, uuid_drawn accepted s, isVersionFour_uuidText (sixteen s)⟩
  · rw [uuid_drawn accepted, uuid_drawn accepted, ← markVersion_eq_iff (sixteen s) (sixteen t)]
    constructor
    · intro same
      exact uuidText_inj (Json.string.inj (Except.ok.inj same))
    · intro same
      rw [same]
  · exact ⟨.ofByteList bytes, length ▸ Script.bytes_ofByteList bytes⟩

/-- Only zeros, and the same with ones where the marks are. -/
theorem uuid_version_four_zeros :
    let c : RecordContext := ⟨0, .enUS, .midnight 0⟩
    let zeros := Script.cycle 0 #[]
    let ones := Script.cycle 0x00f0000000000000 #[0x00000000000000c0]
    (uuid c none zeros).1 = .ok (.string "00000000-0000-4000-8000-000000000000") ∧
      IsVersionFour "00000000-0000-4000-8000-000000000000" ∧
      (uuid c none ones).1 = (uuid c none zeros).1 := by
  intro c zeros ones
  have found : Builtin.registry.resolve "string.uuid" = .ok (uuid : Provider Script) :=
    Builtin.resolve_of_composed (by simp [Builtin.composed])
  have given : (uuid c none zeros).1 =
      .ok (.string "00000000-0000-4000-8000-000000000000") := by
    decide +kernel
  have read : Arguments.read [] none = .ok ⟨[]⟩ := rfl
  obtain ⟨form, lossless, _⟩ := uuid_version_four (c := c) found read
  obtain ⟨text, drawn, version⟩ := form zeros
  rw [given] at drawn
  obtain rfl := Json.string.inj (Except.ok.inj drawn)
  refine ⟨given, version, (lossless ones zeros).mpr ?_⟩
  unfold Alike
  decide +kernel

end Strings

end MockData
