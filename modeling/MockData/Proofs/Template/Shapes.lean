import MockData.Proofs.Except
import MockData.Proofs.Json.Structure
import MockData.Template.Shape

/-!
# How directives are read

What each reader of a directive accepts, and what it makes of it, as conditions on the keys and
members of the object and of its payload.
-/

namespace MockData

namespace Json

theorem toUInt64?_eq_some {v : Json} {n : UInt64} : v.toUInt64? = some n ↔ v = .ofUInt64 n := by
  constructor
  · intro word
    unfold toUInt64? at word
    split at word
    · rename_i number
      cases number with
      | float x => exact nomatch word
      | int k fits =>
        simp only [JsonNumber.toUInt64?, Option.ite_none_right_eq_some, Option.some.injEq] at word
        obtain ⟨nonneg, rfl⟩ := word
        have whole : ((UInt64.ofNat k.toNat).toNat : Int) = k := by
          rw [UInt64.toNat_ofNat_of_lt' (show k.toNat < UInt64.size by
            simp only [UInt64.size]; omega)]
          omega
        simp only [ofUInt64, JsonNumber.ofUInt64, whole]
    · exact nomatch word
  · rintro rfl
    simp [toUInt64?, ofUInt64, JsonNumber.ofUInt64, JsonNumber.toUInt64?]

end Json

namespace Shape

def KeysWithin (members : List (String × Json)) (allowed : List String) : Prop :=
  ∀ m ∈ members, m.1 ∈ allowed

/-- A member that is not there, or is there as null. -/
def Omitted (v : Option Json) : Prop := v = none ∨ v = some .null

theorem checkKeys_ok {kind : DirectiveKind} {members : List (String × Json)}
    {allowed : List String} {u : Unit} :
    checkKeys kind members allowed = .ok u ↔ KeysWithin members (kind.key :: allowed) := by
  unfold checkKeys KeysWithin
  split
  · rename_i m found
    have member := List.mem_of_find?_eq_some found
    have other := List.find?_some found
    refine ⟨fun same => (nomatch same), fun within => ?_⟩
    have allowed := within m member
    simp_all
  · rename_i none
    rw [List.find?_eq_none] at none
    refine ⟨fun _ m member => ?_, fun _ => rfl⟩
    have listed := none m member
    simp only [Bool.and_eq_true, bne_iff_ne, ne_eq, Bool.not_eq_true', List.contains_eq_mem,
      decide_eq_false_iff_not, not_and, Decidable.not_not] at listed
    rw [List.mem_cons]
    by_cases own : m.1 = kind.key
    · exact .inl own
    · exact .inr (listed own)

/-- Without the directive's own key only the other keys are left. -/
theorem keysWithin_own {members : List (String × Json)} {key : String} {allowed : List String}
    (free : Json.hasKey members key = false) :
    KeysWithin members (key :: allowed) ↔ KeysWithin members allowed := by
  rw [Json.hasKey_eq_false] at free
  constructor
  · intro within m member
    exact (List.mem_cons.mp (within m member)).resolve_left (free m member)
  · intro within m member
    exact List.mem_cons_of_mem _ (within m member)

/-! ### Calls -/

inductive ReadsArgs : Option Json → Option (List (String × Json)) → Prop where
  | omitted {v : Option Json} (h : Omitted v) : ReadsArgs v none
  | object (members : List (String × Json)) : ReadsArgs (some (.object members)) (some members)

theorem readArgs_ok {v : Option Json} {args : Option (List (String × Json))} :
    readArgs v = .ok args ↔ ReadsArgs v args := by
  constructor
  · intro read
    unfold readArgs at read
    split at read
    · cases read
      exact .omitted (.inl rfl)
    · cases read
      exact .omitted (.inr rfl)
    · cases read
      exact .object _
    · exact nomatch read
  · intro reads
    cases reads with
    | omitted h => rcases h with rfl | rfl <;> rfl
    | object members => rfl

inductive ReadsPath (node : List (String × Json)) : Json → String → Option Json → Prop where
  | short (path : String) (node_keys : KeysWithin node [DirectiveKind.faker.key, "args"]) :
      ReadsPath node (.string path) path (Json.find? node "args")
  | long {members : List (String × Json)} {path : String}
      (node_keys : KeysWithin node [DirectiveKind.faker.key])
      (keys : KeysWithin members [DirectiveKind.faker.key, "path", "args"])
      (found : Json.find? members "path" = some (.string path)) :
      ReadsPath node (.object members) path (Json.find? members "args")

theorem readPath_ok {node : List (String × Json)} {payload : Json} {path : String}
    {args : Option Json} :
    readPath node payload = .ok (path, args) ↔ ReadsPath node payload path args := by
  constructor
  · intro read
    unfold readPath at read
    split at read
    · obtain ⟨_, keys, result⟩ := bind_ok.mp read
      cases result
      exact .short _ (checkKeys_ok.mp keys)
    · obtain ⟨_, node_keys, read⟩ := bind_ok.mp read
      obtain ⟨_, keys, read⟩ := bind_ok.mp read
      split at read
      · rename_i found
        cases read
        exact .long (checkKeys_ok.mp node_keys) (checkKeys_ok.mp keys) found
      · exact nomatch read
    · exact nomatch read
  · intro reads
    cases reads with
    | short path node_keys =>
      exact bind_ok.mpr ⟨(), checkKeys_ok.mpr node_keys, rfl⟩
    | long node_keys keys found =>
      refine bind_ok.mpr ⟨(), checkKeys_ok.mpr node_keys, ?_⟩
      refine bind_ok.mpr ⟨(), checkKeys_ok.mpr keys, ?_⟩
      rw [found]
      rfl

/-! ### Repeated elements -/

theorem readPayload_ok {kind : DirectiveKind} {node : List (String × Json)} {payload : Json}
    {allowed : List String} {members : List (String × Json)} :
    readPayload kind node payload allowed = .ok members ↔ payload = .object members ∧
      KeysWithin node [kind.key] ∧ KeysWithin members (kind.key :: allowed) := by
  unfold readPayload
  rw [bind_ok]
  constructor
  · rintro ⟨_, node_keys, rest⟩
    split at rest
    · obtain ⟨_, keys, result⟩ := bind_ok.mp rest
      cases result
      exact ⟨rfl, checkKeys_ok.mp node_keys, checkKeys_ok.mp keys⟩
    · exact nomatch rest
  · rintro ⟨rfl, node_keys, keys⟩
    exact ⟨(), checkKeys_ok.mpr node_keys, bind_ok.mpr ⟨(), checkKeys_ok.mpr keys, rfl⟩⟩

theorem readBound_none {payload : List (String × Json)} {key : String} :
    readBound payload key = .ok none ↔ Omitted (Json.find? payload key) := by
  unfold readBound Omitted
  split
  · rename_i absent
    simp [absent]
  · rename_i null
    simp [null]
  · rename_i v nonnull found
    rw [found]
    refine iff_of_false ?_ ?_
    · split <;> exact nofun
    · rintro (absent | null)
      · exact nomatch absent
      · exact nonnull (Option.some.inj null)

theorem readBound_some {payload : List (String × Json)} {key : String} {n : UInt64} :
    readBound payload key = .ok (some n) ↔ Json.find? payload key = some (.ofUInt64 n) := by
  have word := @Json.toUInt64?_eq_some
  unfold readBound
  split
  · simp [*]
  · rename_i found
    rw [found]
    simp [Json.ofUInt64]
  · rename_i v _ found
    rw [found, Option.some.injEq, ← Json.toUInt64?_eq_some]
    cases v.toUInt64? <;> simp

/-- A count stands before the bounds. -/
inductive ReadsCardinality (payload : List (String × Json)) : Cardinality → Prop where
  | fixed {n : UInt64} (count : Json.find? payload "count" = some (.ofUInt64 n)) :
      ReadsCardinality payload (.fixed n)
  | range {min max : UInt64} (count : Omitted (Json.find? payload "count"))
      (lower : Json.find? payload "min" = some (.ofUInt64 min))
      (upper : Json.find? payload "max" = some (.ofUInt64 max)) (ordered : min ≤ max) :
      ReadsCardinality payload (.range min max)

theorem readCardinality_ok {payload : List (String × Json)} {cardinality : Cardinality} :
    readCardinality payload = .ok cardinality ↔ ReadsCardinality payload cardinality := by
  unfold readCardinality
  rw [bind_ok]
  constructor
  · rintro ⟨count, readCount, rest⟩
    cases count with
    | some n =>
      cases rest
      exact .fixed (readBound_some.mp readCount)
    | none =>
      obtain ⟨lower, readLower, rest⟩ := bind_ok.mp rest
      obtain ⟨upper, readUpper, rest⟩ := bind_ok.mp rest
      cases lower with
      | none => exact nomatch rest
      | some min =>
        cases upper with
        | none => exact nomatch rest
        | some max =>
          dsimp only at rest
          split at rest
          · exact nomatch rest
          · rename_i ordered
            cases rest
            exact .range (readBound_none.mp readCount) (readBound_some.mp readLower)
              (readBound_some.mp readUpper) (UInt64.le_iff_toNat_le.mpr (Nat.le_of_not_lt ordered))
  · intro reads
    cases reads with
    | fixed count => exact ⟨_, readBound_some.mpr count, rfl⟩
    | range count lower upper ordered =>
      refine ⟨none, readBound_none.mpr count, ?_⟩
      refine bind_ok.mpr ⟨_, readBound_some.mpr lower, ?_⟩
      refine bind_ok.mpr ⟨_, readBound_some.mpr upper, ?_⟩
      dsimp only
      rw [if_neg (Nat.not_lt_of_le (UInt64.le_iff_toNat_le.mp ordered))]
      rfl

/-! ### Choices -/

inductive ReadsOptions : Json → List String → List Json → Prop where
  | short (options : List Json) : ReadsOptions (.array options) [] options
  | long {members : List (String × Json)} {options : List Json}
      (keys : KeysWithin members [DirectiveKind.oneOf.key, "options"])
      (found : Json.find? members "options" = some (.array options)) :
      ReadsOptions (.object members) ["options"] options

/-! ### Values that may be null -/

inductive ReadsProbability (payload : List (String × Json)) : Binary64 → Prop where
  | omitted (none : Omitted (Json.find? payload "probability")) :
      ReadsProbability payload Binary64.half
  | given {v : Json} {p : Binary64} (found : Json.find? payload "probability" = some v)
      (number : v.toBinary64? = some p) (bounded : p.isProbability) : ReadsProbability payload p

theorem ReadsProbability.isProbability {payload : List (String × Json)} {p : Binary64}
    (reads : ReadsProbability payload p) : p.isProbability := by
  cases reads with
  | omitted _ => decide +kernel
  | given _ _ bounded => exact bounded

theorem readProbability_ok {payload : List (String × Json)} {p : Binary64} :
    readProbability payload = .ok p ↔ ReadsProbability payload p := by
  constructor
  · intro read
    unfold readProbability at read
    split at read
    · rename_i absent
      cases read
      exact .omitted (.inl absent)
    · rename_i null
      cases read
      exact .omitted (.inr null)
    · rename_i v _ found
      split at read
      · rename_i number
        split at read
        · rename_i bounded
          cases read
          exact .given found number bounded
        · exact nomatch read
      · exact nomatch read
  · intro reads
    unfold readProbability
    cases reads with
    | omitted none =>
      rcases none with absent | null
      · rw [absent]
      · rw [null]
    | given found number bounded =>
      rw [found]
      split
      · rename_i absent
        exact nomatch absent
      · rename_i null
        cases null
        exact nomatch number
      · rename_i same
        cases same
        rw [number]
        exact if_pos bounded

/-! ### Directives -/

/-- What the reader of a kind makes of an object with this payload. -/
inductive Reads (members : List (String × Json)) : DirectiveKind → Json → Shape → Prop where
  | faker {payload : Json} {path : String} {given : Option Json}
      {args : Option (List (String × Json))} (call : ReadsPath members payload path given)
      (nonempty : path ≠ "") (arguments : ReadsArgs given args) :
      Reads members .faker payload (.faker path args)
  | array {inner : List (String × Json)} {cardinality : Cardinality}
      (alone : KeysWithin members [DirectiveKind.array.key])
      (keys : KeysWithin inner [DirectiveKind.array.key, "element", "count", "min", "max"])
      (bounds : ReadsCardinality inner cardinality) :
      Reads members .array (.object inner) (.array cardinality (memberOrNull inner "element"))
  | oneOf {payload : Json} {inside : List String} {options : List Json}
      (alone : KeysWithin members [DirectiveKind.oneOf.key])
      (listed : ReadsOptions payload inside options) (nonempty : options ≠ []) :
      Reads members .oneOf payload (.oneOf inside options)
  | nullable {inner : List (String × Json)} {p : Binary64}
      (alone : KeysWithin members [DirectiveKind.nullable.key])
      (keys : KeysWithin inner [DirectiveKind.nullable.key, "value", "probability"])
      (probability : ReadsProbability inner p) :
      Reads members .nullable (.object inner) (.nullable p (memberOrNull inner "value"))

theorem readFaker_ok {node : List (String × Json)} {payload : Json} {shape : Shape} :
    readFaker node payload = .ok shape ↔ Reads node .faker payload shape := by
  unfold readFaker
  rw [bind_ok]
  constructor
  · rintro ⟨⟨path, given⟩, call, rest⟩
    dsimp only at rest
    split at rest
    · exact nomatch rest
    · rename_i nonempty
      obtain ⟨args, arguments, result⟩ := bind_ok.mp rest
      cases result
      exact .faker (readPath_ok.mp call) nonempty (readArgs_ok.mp arguments)
  · intro reads
    cases reads with
    | faker call nonempty arguments =>
      refine ⟨(_, _), readPath_ok.mpr call, ?_⟩
      dsimp only
      rw [if_neg nonempty]
      exact bind_ok.mpr ⟨_, readArgs_ok.mpr arguments, rfl⟩

theorem readArray_ok {node : List (String × Json)} {payload : Json} {shape : Shape} :
    readArray node payload = .ok shape ↔ Reads node .array payload shape := by
  unfold readArray
  rw [bind_ok]
  constructor
  · rintro ⟨members, read, rest⟩
    obtain ⟨rfl, alone, keys⟩ := readPayload_ok.mp read
    obtain ⟨cardinality, bounds, result⟩ := bind_ok.mp rest
    cases result
    exact .array alone keys (readCardinality_ok.mp bounds)
  · intro reads
    cases reads with
    | array alone keys bounds =>
      refine ⟨_, readPayload_ok.mpr ⟨rfl, alone, keys⟩, ?_⟩
      exact bind_ok.mpr ⟨_, readCardinality_ok.mpr bounds, rfl⟩

theorem readOneOf_ok {node : List (String × Json)} {payload : Json} {shape : Shape} :
    readOneOf node payload = .ok shape ↔ Reads node .oneOf payload shape := by
  unfold readOneOf
  rw [bind_ok]
  constructor
  · rintro ⟨_, alone, rest⟩
    have alone := checkKeys_ok.mp alone
    split at rest
    · cases rest
      exact .oneOf alone (.short _) (List.cons_ne_nil _ _)
    · obtain ⟨_, keys, rest⟩ := bind_ok.mp rest
      split at rest
      · rename_i found
        cases rest
        exact .oneOf alone (.long (checkKeys_ok.mp keys) found) (List.cons_ne_nil _ _)
      · exact nomatch rest
    · exact nomatch rest
  · intro reads
    cases reads with
    | oneOf alone options nonempty =>
      obtain ⟨option, rest, rfl⟩ := List.exists_cons_of_ne_nil nonempty
      refine ⟨(), checkKeys_ok.mpr alone, ?_⟩
      cases options with
      | short => rfl
      | long keys found =>
        refine bind_ok.mpr ⟨(), checkKeys_ok.mpr keys, ?_⟩
        rw [found]
        rfl

theorem readNullable_ok {node : List (String × Json)} {payload : Json} {shape : Shape} :
    readNullable node payload = .ok shape ↔ Reads node .nullable payload shape := by
  unfold readNullable
  rw [bind_ok]
  constructor
  · rintro ⟨members, read, rest⟩
    obtain ⟨rfl, alone, keys⟩ := readPayload_ok.mp read
    obtain ⟨p, probability, result⟩ := bind_ok.mp rest
    cases result
    exact .nullable alone keys (readProbability_ok.mp probability)
  · intro reads
    cases reads with
    | nullable alone keys probability =>
      refine ⟨_, readPayload_ok.mpr ⟨rfl, alone, keys⟩, ?_⟩
      exact bind_ok.mpr ⟨_, readProbability_ok.mpr probability, rfl⟩

/-! ### Objects -/

def IsPlain (members : List (String × Json)) : Prop :=
  ∀ kind : DirectiveKind, Json.hasKey members kind.key = false

/-- The object has one directive key and this payload under it. -/
structure IsDirective (kind : DirectiveKind) (members : List (String × Json)) (payload : Json) :
    Prop where
  payload : Json.find? members kind.key = some payload
  only : ∀ other, Json.hasKey members other.key → other = kind

theorem mem_kindsOf {members : List (String × Json)} {kind : DirectiveKind} :
    kind ∈ kindsOf members ↔ Json.hasKey members kind.key := by
  unfold kindsOf
  rw [List.mem_filter]
  exact and_iff_right (by cases kind <;> decide)

theorem kindsOf_nil {members : List (String × Json)} : kindsOf members = [] ↔ IsPlain members := by
  rw [List.eq_nil_iff_forall_not_mem]
  refine forall_congr' fun kind => ?_
  rw [mem_kindsOf, Bool.not_eq_true]

theorem kindsOf_singleton {members : List (String × Json)} {kind : DirectiveKind} :
    kindsOf members = [kind] ↔ IsDirective kind members (memberOrNull members kind.key) := by
  constructor
  · intro single
    have own : kind ∈ kindsOf members := single ▸ List.mem_singleton_self kind
    refine ⟨?_, fun other has => ?_⟩
    · obtain ⟨payload, found⟩ := Option.isSome_iff_exists.mp (mem_kindsOf.mp own)
      simp [memberOrNull, found]
    · have listed := mem_kindsOf.mpr has
      rw [single] at listed
      exact List.mem_singleton.mp listed
  · rintro ⟨payload, only⟩
    have keys : ∀ other : DirectiveKind, Json.hasKey members other.key = decide (other = kind) := by
      intro other
      by_cases same : other = kind
      · subst same
        simp [Json.hasKey, payload]
      · rw [decide_eq_false same]
        exact eq_false_of_ne_true fun has => same (only other has)
    unfold kindsOf
    simp only [keys]
    cases kind <;> rfl

theorem read?_none {members : List (String × Json)} :
    read? members = .ok none ↔ IsPlain members := by
  rw [← kindsOf_nil]
  unfold read?
  constructor
  · intro read
    split at read
    · assumption
    · obtain ⟨_, _, some⟩ := map_ok.mp read
      exact nomatch some
    · exact nomatch read
  · intro none
    rw [none]

theorem read?_some {members : List (String × Json)} {shape : Shape} :
    read? members = .ok (some shape) ↔
      ∃ kind payload, IsDirective kind members payload ∧ Reads members kind payload shape := by
  unfold read?
  constructor
  · intro read
    split at read
    · exact nomatch read
    · rename_i kind single
      have directive := kindsOf_singleton.mp single
      obtain ⟨_, read, same⟩ := map_ok.mp read
      cases same
      refine ⟨kind, _, directive, ?_⟩
      cases kind with
      | faker => exact readFaker_ok.mp read
      | array => exact readArray_ok.mp read
      | oneOf => exact readOneOf_ok.mp read
      | nullable => exact readNullable_ok.mp read
    · exact nomatch read
  · rintro ⟨kind, payload, directive, reads⟩
    have same : memberOrNull members kind.key = payload := by
      simp [memberOrNull, directive.payload]
    rw [kindsOf_singleton.mpr (same.symm ▸ directive)]
    dsimp only
    rw [same]
    refine map_ok.mpr ⟨shape, ?_, rfl⟩
    cases kind with
    | faker => exact readFaker_ok.mpr reads
    | array => exact readArray_ok.mpr reads
    | oneOf => exact readOneOf_ok.mpr reads
    | nullable => exact readNullable_ok.mpr reads

end Shape

end MockData
