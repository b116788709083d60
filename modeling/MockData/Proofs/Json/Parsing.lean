import Mathlib.Data.List.Nodup
import MockData.Json.Parser
import MockData.Proofs.Except
import MockData.Proofs.Json.Structure

/-!
# Values that are read

A repeated key takes the place of the first one, so no object that is read from a text has a key
twice (`keysDistinct_of_parse`).
-/

namespace MockData

namespace Json

theorem keysDistinctMembers_iff {members : List (String × Json)} :
    keysDistinctMembers members ↔
      (members.map Prod.fst).Nodup ∧ ∀ m ∈ members, m.2.keysDistinct := by
  induction members with
  | nil => exact iff_of_true rfl ⟨List.nodup_nil, List.forall_mem_nil _⟩
  | cons m rest ih =>
    obtain ⟨key, value⟩ := m
    have fresh : find? rest key = none ↔ key ∉ rest.map Prod.fst := by
      rw [find?_eq_none_iff, List.mem_map]
      exact ⟨fun other ⟨m, member, same⟩ => other m member same,
        fun absent m member same => absent ⟨m, member, same⟩⟩
    rw [keysDistinctMembers_cons, ih, fresh, List.map_cons, List.nodup_cons, List.forall_mem_cons]
    constructor
    · rintro ⟨first, absent, nodup, others⟩
      exact ⟨⟨absent, nodup⟩, first, others⟩
    · rintro ⟨⟨absent, nodup⟩, first, others⟩
      exact ⟨first, absent, nodup, others⟩

theorem keysDistinct_reverse {members : List (String × Json)}
    (distinct : keysDistinctMembers members) : keysDistinctMembers members.reverse := by
  obtain ⟨nodup, each⟩ := keysDistinctMembers_iff.mp distinct
  refine keysDistinctMembers_iff.mpr ⟨?_, fun m member => each m (List.mem_reverse.mp member)⟩
  rw [List.map_reverse]
  exact List.nodup_reverse.mpr nodup

namespace Parser

theorem keysDistinct_insertMember {read : List (String × Json)} {v : Json}
    (distinct : keysDistinctMembers read) (inside : v.keysDistinct) (key : String) :
    keysDistinctMembers (insertMember read key v) := by
  obtain ⟨nodup, each⟩ := keysDistinctMembers_iff.mp distinct
  unfold insertMember
  split
  · refine keysDistinctMembers_iff.mpr ⟨?_, ?_⟩
    · have keys : (read.map fun m => if m.1 = key then (key, v) else m).map Prod.fst =
          read.map Prod.fst := by
        rw [List.map_map]
        refine List.map_congr_left fun m _ => ?_
        by_cases same : m.1 = key <;> simp [same]
      rwa [keys]
    · intro m member
      obtain ⟨old, there, rfl⟩ := List.mem_map.mp member
      split
      · exact inside
      · exact each old there
  · rename_i absent
    rw [Bool.not_eq_true, hasKey_eq_false] at absent
    exact keysDistinctMembers_cons.mpr ⟨inside, find?_eq_none_iff.mpr absent, distinct⟩

theorem word_ok {v w : Json} {expected text rest : List Char}
    (read : word v expected text = .ok (w, rest)) : w = v := by
  induction expected generalizing text with
  | nil =>
    cases read
    rfl
  | cons e expected ih =>
    cases text with
    | nil => exact nomatch read
    | cons c text =>
      unfold word at read
      split at read
      · exact ih read
      · exact nomatch read

/-! ### The three readers -/

/-- The values that a reader gives have distinct keys. -/
def Keeps (reader : List Char → Except JsonFault (Json × List Char)) : Prop :=
  ∀ text v rest, reader text = .ok (v, rest) → v.keysDistinct

section

variable {fuel : Nat}

theorem value_keeps
    (more : ∀ nesting before, (∀ item ∈ before, item.keysDistinct) →
      Keeps (items fuel nesting before))
    (named : ∀ nesting before, keysDistinctMembers before → Keeps (members fuel nesting before))
    (nesting : Nat) : Keeps (value (fuel + 1) nesting) := by
  intro text v rest read
  unfold value at read
  split at read
  · exact nomatch read
  · rw [word_ok read]
    rfl
  · rw [word_ok read]
    rfl
  · rw [word_ok read]
    rfl
  · obtain ⟨_, _, result⟩ := bind_ok.mp read
    cases result
    rfl
  · split at read
    · exact nomatch read
    · split at read
      · cases read
        rfl
      · exact more _ [] (List.forall_mem_nil _) _ _ _ read
  · split at read
    · exact nomatch read
    · split at read
      · cases read
        rfl
      · exact named _ [] rfl _ _ _ read
  · split at read
    · obtain ⟨_, _, result⟩ := bind_ok.mp read
      cases result
      rfl
    · exact nomatch read

variable (inside : ∀ nesting, Keeps (value fuel nesting))

include inside

theorem items_keeps
    (more : ∀ nesting before, (∀ item ∈ before, item.keysDistinct) →
      Keeps (items fuel nesting before))
    (nesting : Nat) {before : List Json} (distinct : ∀ item ∈ before, item.keysDistinct) :
    Keeps (items (fuel + 1) nesting before) := by
  intro text v rest read
  unfold items at read
  obtain ⟨⟨item, left⟩, first, read⟩ := bind_ok.mp read
  have all : ∀ v ∈ item :: before, v.keysDistinct :=
    List.forall_mem_cons.mpr ⟨inside _ _ _ _ first, distinct⟩
  dsimp only at read
  split at read
  · cases read
    exact keysDistinct_array.mpr fun v member => all v (List.mem_reverse.mp member)
  · exact more _ _ all _ _ _ read
  · exact nomatch read

theorem members_keeps
    (named : ∀ nesting before, keysDistinctMembers before → Keeps (members fuel nesting before))
    (nesting : Nat) {before : List (String × Json)} (distinct : keysDistinctMembers before) :
    Keeps (members (fuel + 1) nesting before) := by
  intro text v rest read
  unfold members at read
  split at read
  · obtain ⟨⟨key, left⟩, _, read⟩ := bind_ok.mp read
    dsimp only at read
    split at read
    · obtain ⟨⟨v, left⟩, first, read⟩ := bind_ok.mp read
      have all := keysDistinct_insertMember distinct (inside _ _ _ _ first) key
      dsimp only at read
      split at read
      · cases read
        exact keysDistinct_reverse all
      · exact named _ _ all _ _ _ read
      · exact nomatch read
    · exact nomatch read
  · exact nomatch read

end

theorem read_keeps (fuel : Nat) :
    (∀ nesting, Keeps (value fuel nesting)) ∧
    (∀ nesting before, (∀ item ∈ before, item.keysDistinct) →
      Keeps (items fuel nesting before)) ∧
    ∀ nesting before, keysDistinctMembers before → Keeps (members fuel nesting before) := by
  induction fuel with
  | zero => exact ⟨fun _ _ _ _ => nofun, fun _ _ _ _ _ _ => nofun, fun _ _ _ _ _ _ => nofun⟩
  | succ fuel ih =>
    obtain ⟨inside, more, named⟩ := ih
    exact ⟨value_keeps more named, fun nesting _ => items_keeps inside more nesting,
      fun nesting _ => members_keeps inside named nesting⟩

end Parser

/-- No object in a value that is read from a text has a key twice. -/
theorem keysDistinct_of_parse {text : String} {value : Json} (read : parse text = .ok value) :
    value.keysDistinct := by
  obtain ⟨⟨v, left⟩, whole, read⟩ := bind_ok.mp read
  dsimp only at read
  split at read
  · cases read
    exact (Parser.read_keeps _).1 _ _ _ _ whole
  · exact nomatch read

end Json

end MockData
