import MockData.Proofs.Provider.Registrations
import MockData.Proofs.Text.Split

/-!
# The listing of a registry

The listing writes a path anew from the names on the way to its provider. A space without a path
counts as the outermost one, so empty names at the start of a path are lost, and with them its dots:
`Represents.mem_paths_iff`. Only where no path starts with a dot are the listed paths those that
lead to providers.
-/

namespace MockData

namespace RegistryEntry

variable {α : Type}

def listed (space : String) (names : List String) : String := names.foldl pathOf space

mutual
theorem paths_eq_map (path : String) (entry : RegistryEntry α) :
    paths path entry = (leaves entry).map fun leaf => listed path leaf.1 := by
  cases entry with
  | provider p => simp [paths, leaves, listed]
  | space entries => rw [paths, leaves, pathsIn_eq_map path entries]
theorem pathsIn_eq_map (space : String) (entries : List (String × RegistryEntry α)) :
    pathsIn space entries = (leavesIn entries).map fun leaf => listed space leaf.1 := by
  cases entries with
  | nil => simp [pathsIn, leavesIn]
  | cons first rest =>
    obtain ⟨name, entry⟩ := first
    rw [pathsIn, leavesIn, paths_eq_map (pathOf space name) entry, pathsIn_eq_map space rest]
    simp [listed, Function.comp_def]
end

theorem toList_listed {space : String} (some : space ≠ "") (names : List String) :
    (listed space names).toList = space.toList ++ names.flatMap fun name => '.' :: name.toList := by
  induction names generalizing space with
  | nil => simp [listed]
  | cons name rest ih =>
    have longer : pathOf space name = space ++ "." ++ name := by simp [pathOf, some]
    have more : space ++ "." ++ name ≠ "" := by
      rw [ne_eq, ← String.toList_inj]
      simp
    rw [listed, List.foldl_cons, longer, ← listed, ih more]
    simp

theorem listed_split (text : List Char) :
    listed "" ((Text.split '.' text).map String.ofList) =
      String.ofList (text.dropWhile fun c => c = '.') := by
  induction text with
  | nil => rfl
  | cons c rest ih =>
    by_cases dot : c = '.'
    · subst dot
      simpa [Text.split, listed, pathOf] using ih
    · obtain ⟨part, parts, _, whole⟩ := Text.split_cons '.' c rest dot
      have joined := Text.flatMap_split '.' (c :: rest)
      have first : pathOf "" (String.ofList (c :: part)) = String.ofList (c :: part) := by
        simp [pathOf]
      have some : String.ofList (c :: part) ≠ "" := by
        rw [ne_eq, ← String.toList_inj]
        simp
      rw [whole, List.flatMap_cons, List.cons_append] at joined
      rw [whole, List.map_cons, listed, List.foldl_cons, first, ← listed, ← String.toList_inj,
        toList_listed some]
      simpa [dot, List.flatMap_map] using (List.cons.inj joined).2

end RegistryEntry

namespace Registry

variable {α : Type}

/-- A path without the dots at its start. -/
def undotted (path : String) : String := String.ofList (path.toList.dropWhile fun c => c = '.')

def startsWithDot (path : String) : Bool := path.toList.head? = some '.'

theorem listed_segments (path : String) :
    RegistryEntry.listed "" (segments path) = undotted path :=
  RegistryEntry.listed_split path.toList

theorem segments_injective {path other : String} (same : segments path = segments other) :
    path = other := by
  have parts := (List.map_inj_right fun _ _ => String.ofList_injective).mp same
  exact String.toList_injective (Text.split_injective '.' parts)

theorem startsWithDot_undotted (path : String) : startsWithDot (undotted path) = false := by
  unfold startsWithDot undotted
  cases rest : path.toList.dropWhile fun c => c = '.' with
  | nil => simp
  | cons c others =>
    have stops := List.head?_dropWhile_not (fun c : Char => decide (c = '.')) path.toList
    rw [rest] at stops
    simpa using stops

theorem undotted_of_plain {path : String} (plain : startsWithDot path = false) :
    undotted path = path := by
  have kept : path.toList.dropWhile (fun c => c = '.') = path.toList := by
    unfold startsWithDot at plain
    cases text : path.toList with
    | nil => rfl
    | cons c rest => simp_all
  rw [undotted, kept, String.ofList_toList]

section

variable {r : Registry α} {m : NameMap α}

theorem Represents.resolve_ok_iff (represents : Represents r m) (path : String) (p : α) :
    r.resolve path = .ok p ↔ m (segments path) = some p := by
  rw [represents.resolve_iff]
  constructor
  · intro outcome
    cases outcome with
    | found here => exact here
  · exact .found

end

theorem pathsIn_eq_listed (r : Registry α) : RegistryEntry.pathsIn "" r.entries =
    ((RegistryEntry.leavesIn r.entries).map Prod.fst).map (RegistryEntry.listed "") := by
  rw [RegistryEntry.pathsIn_eq_map, List.map_map]
  rfl

section

variable (calls : List (String × α))

/-- The keys of the leaves are the names of the paths that lead to providers. -/
theorem mem_keys_iff (key : List String) :
    key ∈ (RegistryEntry.leavesIn (ofCalls calls).entries).map Prod.fst ↔
      ∃ path p, (ofCalls calls).resolve path = .ok p ∧ key = segments path := by
  have represents := represents_ofCalls calls
  constructor
  · intro member
    obtain ⟨⟨_, p⟩, leaf, rfl⟩ := List.mem_map.mp member
    have found := (represents.reads _ p).mp leaf
    obtain ⟨call, _, named, _⟩ := ofCalls_eq_some found
    rw [named] at found
    exact ⟨call.1, p, (represents.resolve_ok_iff call.1 p).mpr found, named⟩
  · rintro ⟨path, p, found, rfl⟩
    have leaf := (represents.reads _ p).mpr ((represents.resolve_ok_iff path p).mp found)
    exact List.mem_map.mpr ⟨_, leaf, rfl⟩

theorem mem_paths_iff (path : String) : path ∈ (ofCalls calls).paths ↔
    ∃ q p, (ofCalls calls).resolve q = .ok p ∧ path = undotted q := by
  rw [paths, (Text.sorted_perm _).mem_iff, pathsIn_eq_listed, List.mem_map]
  constructor
  · rintro ⟨key, member, rfl⟩
    obtain ⟨q, p, found, rfl⟩ := (mem_keys_iff calls key).mp member
    exact ⟨q, p, found, listed_segments q⟩
  · rintro ⟨q, p, found, rfl⟩
    exact ⟨segments q, (mem_keys_iff calls _).mpr ⟨q, p, found, rfl⟩, listed_segments q⟩

/-- No path that leads to a provider starts with a dot. -/
def Plain (r : Registry α) : Prop := ∀ path p, r.resolve path = .ok p → startsWithDot path = false

/-- What is found has been registered under the path. -/
theorem mem_of_resolve {path : String} {p : α} (found : (ofCalls calls).resolve path = .ok p) :
    (path, p) ∈ calls := by
  obtain ⟨⟨named, q⟩, member, same, rfl⟩ :=
    ofCalls_eq_some (((represents_ofCalls calls).resolve_ok_iff path p).mp found)
  obtain rfl := segments_injective same
  exact member

theorem plain_of_calls (plain : ∀ call ∈ calls, startsWithDot call.1 = false) :
    Plain (ofCalls calls) := fun _ _ found => plain _ (mem_of_resolve calls found)

theorem pathsIn_nodup (plain : Plain (ofCalls calls)) :
    (RegistryEntry.pathsIn "" (ofCalls calls).entries).Nodup := by
  rw [pathsIn_eq_listed, List.Nodup, List.pairwise_map]
  refine List.Pairwise.imp_of_mem ?_ (represents_ofCalls calls).nodup
  intro key other one two different same
  obtain ⟨q, p, found, rfl⟩ := (mem_keys_iff calls key).mp one
  obtain ⟨q', p', found', rfl⟩ := (mem_keys_iff calls other).mp two
  rw [listed_segments, listed_segments, undotted_of_plain (plain q p found),
    undotted_of_plain (plain q' p' found')] at same
  exact different (congrArg segments same)

end

/-- After any registrations the listing holds the paths that lead to providers, each without the
dots at its start, in ascending order. It holds exactly those that lead to providers if and only if
none of these starts with a dot, and then no path is listed twice. -/
theorem paths_agree_with_resolve (calls : List (String × α)) :
    let r := ofCalls calls
    (∀ path, path ∈ r.paths ↔ ∃ q p, r.resolve q = .ok p ∧ path = undotted q) ∧
    r.paths.Pairwise (· ≤ ·) ∧
    ((∀ path, path ∈ r.paths ↔ ∃ p, r.resolve path = .ok p) ↔ Plain r) ∧
    (Plain r → r.paths.Pairwise (· < ·)) := by
  refine ⟨mem_paths_iff calls, Text.sorted_ascending _,
    ⟨fun agree path p found => ?_, fun plain path => ?_⟩,
    fun plain => Text.sorted_strict (pathsIn_nodup calls plain)⟩
  · obtain ⟨q, _, _, rfl⟩ := (mem_paths_iff calls path).mp ((agree path).mpr ⟨p, found⟩)
    exact startsWithDot_undotted q
  · rw [mem_paths_iff]
    constructor
    · rintro ⟨q, p, found, rfl⟩
      rw [undotted_of_plain (plain q p found)]
      exact ⟨p, found⟩
    · rintro ⟨p, found⟩
      exact ⟨path, p, found, (undotted_of_plain (plain path p found)).symm⟩

theorem paths_agree_with_resolve_sorted :
    let r := ofCalls [("a.b", 1), ("a-b.c", 2), ("", 3)]
    Plain r ∧ (∀ path, path ∈ r.paths ↔ ∃ p, r.resolve path = .ok p) ∧
      r.paths.Pairwise (· < ·) := by
  intro r
  have plain : Plain r := plain_of_calls _ (by decide)
  obtain ⟨_, _, agree, strict⟩ :=
    paths_agree_with_resolve [("a.b", 1), ("a-b.c", 2), ("", 3)]
  exact ⟨plain, agree.mpr plain, strict plain⟩

/-- A path with a dot at its start is listed without it, and the listed path leads nowhere. -/
theorem paths_leading_dot :
    let r := ofCalls [(".a", 1)]
    r.paths = ["a"] ∧ r.resolve ".a" = .ok 1 ∧ r.resolve "a" = .error (.missing "a") := by
  refine ⟨?_, rfl, rfl⟩
  decide +kernel

end Registry

end MockData
