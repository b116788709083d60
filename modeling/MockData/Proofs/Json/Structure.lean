import MockData.Json.Value
import MockData.Proofs.Text.Dictionary

/-!
# The structure of JSON values

`Json.nested` is the induction over values with lists and members inside. Looking up a key finds a
member, and where no two members share a key it finds each of them.
-/

namespace MockData

namespace Json

/-- A property of values follows from that of the items and members inside. -/
theorem nested {P : Json → Prop} (null : P .null) (bool : ∀ b, P (.bool b))
    (number : ∀ n, P (.number n)) (string : ∀ s, P (.string s))
    (array : ∀ items, (∀ item ∈ items, P item) → P (.array items))
    (object : ∀ members, (∀ m ∈ members, P m.2) → P (.object members)) (value : Json) : P value :=
  @Json.rec P (fun items => ∀ item ∈ items, P item) (fun members => ∀ m ∈ members, P m.2)
    (fun m => P m.2) null bool number string array object (List.forall_mem_nil _)
    (fun _ _ first others => List.forall_mem_cons.mpr ⟨first, others⟩) (List.forall_mem_nil _)
    (fun _ _ first others => List.forall_mem_cons.mpr ⟨first, others⟩) (fun _ _ inner => inner) value

/-! ### Looking up a key -/

variable {members : List (String × Json)} {key : String} {value : Json}

theorem find?_cons (key k : String) (value : Json) (rest : List (String × Json)) :
    find? ((k, value) :: rest) key = if key = k then some value else find? rest key :=
  Dictionary.get?_cons key k value rest

theorem find?_eq_none_iff : find? members key = none ↔ ∀ m ∈ members, m.1 ≠ key := by
  unfold find?
  rw [List.lookup_eq_none_iff]
  constructor
  · intro absent m member same
    simpa [same] using absent m member
  · intro absent m member
    simpa using Ne.symm (absent m member)

theorem hasKey_eq_false : hasKey members key = false ↔ ∀ m ∈ members, m.1 ≠ key := by
  rw [hasKey, Option.isSome_eq_false_iff, Option.isNone_iff_eq_none, find?_eq_none_iff]

theorem mem_of_find? (found : find? members key = some value) : (key, value) ∈ members := by
  induction members with
  | nil => exact nomatch found
  | cons m rest ih =>
    obtain ⟨k, v⟩ := m
    rw [find?_cons] at found
    split at found
    · rename_i same
      cases found
      rw [same]
      exact List.mem_cons_self
    · exact List.mem_cons_of_mem _ (ih found)

/-! ### Distinct keys -/

theorem keysDistinctMembers_cons {k : String} {v : Json} {rest : List (String × Json)} :
    keysDistinctMembers ((k, v) :: rest) ↔
      v.keysDistinct ∧ find? rest k = none ∧ keysDistinctMembers rest := by
  simp [keysDistinctMembers, hasKey, and_assoc]

theorem keysDistinct_array {items : List Json} :
    (Json.array items).keysDistinct ↔ ∀ item ∈ items, item.keysDistinct := by
  rw [keysDistinct]
  induction items with
  | nil => simp [keysDistinctItems]
  | cons item rest ih => simp [keysDistinctItems, ih]

theorem keysDistinct_of_mem (distinct : keysDistinctMembers members) :
    ∀ m ∈ members, m.2.keysDistinct := by
  induction members with
  | nil => exact List.forall_mem_nil _
  | cons m rest ih =>
    obtain ⟨first, _, others⟩ := keysDistinctMembers_cons.mp distinct
    exact List.forall_mem_cons.mpr ⟨first, ih others⟩

/-- With distinct keys every member is the one that its key finds. -/
theorem find?_eq_some_iff (distinct : keysDistinctMembers members) :
    find? members key = some value ↔ (key, value) ∈ members := by
  refine ⟨mem_of_find?, fun member => ?_⟩
  induction members with
  | nil => exact nomatch member
  | cons m rest ih =>
    obtain ⟨k, v⟩ := m
    obtain ⟨_, fresh, others⟩ := keysDistinctMembers_cons.mp distinct
    rw [find?_cons]
    rcases List.mem_cons.mp member with same | later
    · cases same
      rw [if_pos rfl]
    · rw [if_neg (find?_eq_none_iff.mp fresh _ later), ih others later]

end Json

end MockData
