import Mathlib.Data.List.Nodup
import MockData.Proofs.Except
import MockData.Proofs.Json.Structure
import MockData.Provider.Arguments

/-!
# Accepted arguments

Arguments are accepted as they stand in the call. Every one of them belongs to a parameter and is of
its kind, so that what is present can also be read.
-/

namespace MockData

namespace Arguments

variable {parameters : List Parameter} {a : Arguments} {key : String}
  {value : Json}

theorem accepts_of_checkMembers {members : List (String × Json)}
    (checked : checkMembers parameters members = .ok ()) (member : (key, value) ∈ members) :
    ∃ p, (parameters.find? fun p => p.key = key) = some p ∧ p.kind.accepts value := by
  induction members with
  | nil => exact nomatch member
  | cons m rest ih =>
    obtain ⟨k, v⟩ := m
    rw [checkMembers] at checked
    split at checked
    · exact nomatch checked
    · rename_i p declared
      split at checked
      · rename_i accepted
        rcases List.mem_cons.mp member with same | later
        · cases same
          exact ⟨p, declared, accepted⟩
        · exact ih checked later
      · exact nomatch checked

theorem hasKey_of_checkRequired {members : List (String × Json)} {p : Parameter}
    (checked : checkRequired members parameters = .ok ()) (declared : p ∈ parameters)
    (required : p.required) : Json.hasKey members p.key := by
  induction parameters with
  | nil => exact nomatch declared
  | cons q rest ih =>
    rw [checkRequired] at checked
    split at checked
    · exact nomatch checked
    · rename_i present
      rcases List.mem_cons.mp declared with rfl | later
      · simpa [required] using present
      · exact ih checked later

theorem declared_unique (distinct : (parameters.map Parameter.key).Nodup) {p q : Parameter}
    (declared : p ∈ parameters) (found : (parameters.find? fun r => r.key = p.key) = some q) :
    q = p := by
  have same : q.key = p.key := by simpa using List.find?_some found
  exact List.inj_on_of_nodup_map distinct (List.mem_of_find?_eq_some found) declared same

theorem read_given (parameters : List Parameter) (given : Option (List (String × Json))) :
    read parameters (given.map .object) = (do
      checkMembers parameters (given.getD [])
      checkRequired (given.getD []) parameters
      return ⟨given.getD []⟩) := by
  cases given <;> rfl

/-- Accepted arguments are left out or are an object, and have passed both checks. -/
theorem read_ok {args : Option Json} (accepted : read parameters args = .ok a) :
    ∃ given : Option (List (String × Json)), args = given.map .object ∧ a = ⟨given.getD []⟩ ∧
      checkMembers parameters (given.getD []) = .ok () ∧
      checkRequired (given.getD []) parameters = .ok () := by
  obtain ⟨given, rfl⟩ : ∃ given : Option (List (String × Json)), args = given.map .object := by
    cases args with
    | none => exact ⟨none, rfl⟩
    | some value =>
      cases value with
      | object members => exact ⟨some members, rfl⟩
      | _ => exact nomatch accepted
  rw [read_given] at accepted
  obtain ⟨_, checked, rest⟩ := bind_ok.mp accepted
  obtain ⟨_, required, rest⟩ := bind_ok.mp rest
  exact ⟨given, rfl, (pure_ok.mp rest).symm, checked, required⟩

theorem read_object_ok {members : List (String × Json)}
    (accepted : read parameters (some (.object members)) = .ok a) :
    a = ⟨members⟩ ∧ checkMembers parameters members = .ok () := by
  obtain ⟨given, same, rfl, checked, _⟩ := read_ok accepted
  cases given with
  | none => exact nomatch same
  | some object =>
    cases same
    exact ⟨rfl, checked⟩

/-- A timestamp that is present is one that can be read. -/
theorem exists_timestamp {members : List (String × Json)} {required : Bool}
    (accepted : read parameters (some (.object members)) = .ok a)
    (declared : (parameters.find? fun p => p.key = key) = some ⟨key, .timestamp, required⟩)
    (present : Json.hasKey members key) : ∃ t, a.timestamp? key = some t := by
  obtain ⟨rfl, checked⟩ := read_object_ok accepted
  obtain ⟨value, found⟩ := Option.isSome_iff_exists.mp present
  obtain ⟨p, same, kind⟩ := accepts_of_checkMembers checked (Json.mem_of_find? found)
  obtain rfl := Option.some.inj (declared.symm.trans same)
  obtain ⟨t, reads⟩ := Option.isSome_iff_exists.mp kind
  refine ⟨t, ?_⟩
  rw [timestamp?, show get? ⟨members⟩ key = some value from found]
  exact reads

end Arguments

/-! ### Integers -/

theorem toInt64?_ofInt64 (k : Int64) : (Json.ofInt64 k).toInt64? = some k := by
  have most := k.toInt_lt
  simp only [Json.ofInt64, Json.toInt64?, JsonNumber.ofInt64, JsonNumber.toInt64?]
  rw [if_pos (by omega), Int64.ofInt_toInt]

/-- A provider of two integers can be given any two. -/
theorem Arguments.read_integers {k l : String} (apart : k ≠ l) (m n : Int64) :
    let members := [(k, Json.ofInt64 m), (l, Json.ofInt64 n)]
    Arguments.read [⟨k, .int, false⟩, ⟨l, .int, false⟩] (some (.object members)) = .ok ⟨members⟩ ∧
      Arguments.int? ⟨members⟩ k = some m ∧ Arguments.int? ⟨members⟩ l = some n := by
  intro members
  have accepted : checkMembers [⟨k, .int, false⟩, ⟨l, .int, false⟩] members = .ok () := by
    simp [members, checkMembers, ParameterKind.accepts, toInt64?_ofInt64, apart]
  have other : (l == k) = false := beq_false_of_ne apart.symm
  refine ⟨?_, ?_, ?_⟩
  · have read := read_given [⟨k, .int, false⟩, ⟨l, .int, false⟩] (some members)
    rw [Option.getD_some, accepted] at read
    exact read
  · simp [int?, get?, members, Json.find?, toInt64?_ofInt64]
  · simp [int?, get?, members, Json.find?, toInt64?_ofInt64, List.lookup_cons, other]

end MockData
