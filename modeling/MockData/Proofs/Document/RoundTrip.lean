import MockData.Proofs.Document.Acceptance

/-!
# Specifications that are written and read

What is written of a specification is read as the same one (`ofJson_toJson`). An object that is read
may have its members in any order, others beside them, a whole number in either kind and no name or
a null one; what is written of it shows none of that: `toJson_of_read`.
-/

namespace MockData

namespace DocumentSpec

theorem countOf?_ofUInt64 (count : UInt64) : countOf? (.ofUInt64 count) = some count := by
  simp [JsonNumber.ofUInt64, countOf?]

theorem hasValue_of_countOf? {number : JsonNumber} {count : UInt64}
    (counted : countOf? number = some count) : number.HasValue count.toNat := by
  cases number with
  | int n fits =>
    simp only [countOf?, Option.ite_none_right_eq_some, Option.some.injEq] at counted
    obtain ⟨nonneg, rfl⟩ := counted
    have small : n.toNat < 0x10000000000000000 := by omega
    have word : (UInt64.ofNat n.toNat).toNat = n.toNat := UInt64.toNat_ofNat_of_lt' small
    rw [word, Int.toNat_of_nonneg nonneg]
    rfl
  | float x =>
    simp only [countOf?, Option.ite_none_right_eq_some, Option.some.injEq, Bool.and_eq_true,
      decide_eq_true_eq] at counted
    obtain ⟨⟨⟨whole, least⟩, small⟩, rfl⟩ := counted
    obtain ⟨n, value⟩ := x.isIntegral_iff.mp whole
    have positive := (Binary64.one_le_iff value).mp least
    have word : (UInt64.ofNat x.floorMagnitude).toNat = x.floorMagnitude :=
      UInt64.toNat_ofNat_of_lt' small
    rw [word, Binary64.floorMagnitude_of_units value, Int.natAbs_of_nonneg (by omega)]
    exact value

theorem ofJson_toJson (spec : DocumentSpec) : ofJson spec.toJson = .ok spec := by
  obtain ⟨count, filename, template⟩ := spec
  have counted : readMember .none "count" (.ofUInt64 count) = .ok ⟨some count, none, none⟩ :=
    bind_ok.mpr ⟨count, readCount_ok.mpr ⟨_, rfl, countOf?_ofUInt64 count⟩, rfl⟩
  cases filename with
  | none => exact bind_ok.mpr ⟨_, bind_ok.mpr ⟨_, counted, rfl⟩, rfl⟩
  | some name => exact bind_ok.mpr ⟨_, bind_ok.mpr ⟨_, counted, rfl⟩, rfl⟩

def givenFilename (members : List (String × Json)) : List (String × Json) :=
  match Json.find? members "filename" with
  | some (.string name) => [("filename", .string name)]
  | _ => []

theorem givenFilename_eq {members : List (String × Json)} {filename : Option String}
    (reads : ReadsFilename (Json.find? members "filename") filename) :
    givenFilename members = filename.toList.map fun name => ("filename", .string name) := by
  unfold givenFilename
  generalize Json.find? members "filename" = v at reads ⊢
  cases reads with
  | omitted absent => rcases absent with rfl | rfl <;> rfl
  | given name => rfl

/-- What is written is read as it was. What is read from an object is written with the number of its
count as an integer, its filename if that is a string, and its template; and every object with a
count from one to `2 ^ 64 - 1` and the other members in order is read. -/
theorem toJson_of_read :
    (∀ spec : DocumentSpec, ofJson spec.toJson = .ok spec) ∧
    (∀ members spec, Json.keysDistinctMembers members → ofJson (.object members) = .ok spec →
      ∃ number n fits template,
        Json.find? members "count" = some (.number number) ∧ number.HasValue n ∧
        Json.find? members "template" = some template ∧
        spec.toJson = .object
          ([("count", .number (.int n fits))] ++ givenFilename members ++
            [("template", template)]) ∧
        ofJson spec.toJson = .ok spec) ∧
    ∀ members n filename source, Json.keysDistinctMembers members →
      ReadFrom members n filename source → 1 ≤ n → n < 0x10000000000000000 →
        ofJson (.object members) = .ok ⟨.ofNat n, filename, source⟩ := by
  refine ⟨ofJson_toJson, fun members spec distinct read => ?_, ?_⟩
  · obtain ⟨⟨number, found, counted⟩, reads, template⟩ := (ofJson_object_ok distinct).mp read
    have word := spec.count.toNat_lt
    refine ⟨number, spec.count.toNat, ⟨by omega, by omega⟩, spec.template, found,
      hasValue_of_countOf? counted, template, ?_, ofJson_toJson spec⟩
    rw [givenFilename_eq reads]
    rfl
  · intro members n filename source distinct given positive fits
    exact (ofJson_ok_iff_fits distinct given positive).mpr ⟨fits, rfl⟩

theorem toJson_of_read_disguised :
    let members : List (String × Json) :=
      [("template", .null), ("note", .bool true), ("filename", .null),
        ("count", .number (.float .one))]
    Json.keysDistinctMembers members ∧ ReadFrom members 1 none .null ∧
      ∃ spec, ofJson (.object members) = .ok spec ∧ ∃ fits,
        spec.toJson = .object [("count", .number (.int 1 fits)), ("template", .null)] ∧
        ofJson spec.toJson = .ok spec := by
  intro members
  have distinct : Json.keysDistinctMembers members := rfl
  have one : (JsonNumber.float .one).HasValue 1 := by
    show _ = _
    decide +kernel
  have given : ReadFrom members 1 none .null := ⟨⟨_, rfl, one⟩, .omitted (.inr rfl), rfl⟩
  obtain ⟨_, writes, reads⟩ := toJson_of_read
  have read := reads members 1 none .null distinct given (by decide) (by decide)
  obtain ⟨number, n, fits, template, found, value, source, written, again⟩ :=
    writes members _ distinct read
  obtain rfl := Json.number.inj (Option.some.inj found)
  obtain rfl := one.unique value
  obtain rfl := Option.some.inj source
  exact ⟨distinct, given, _, read, fits, written, again⟩

end DocumentSpec

end MockData
