import MockData.Proofs.Template.Roles

/-!
# Template positions

What the keys of an object say about the roles inside it. A template inside a directive is one of
those that the reader of the directive finds (`follow?_directive`), and the directives of an object
are its own and those of that template (`sources_directive`).
-/

namespace MockData

theorem DirectiveKind.ofKey?_key (kind : DirectiveKind) : ofKey? kind.key = some kind := by
  cases kind <;> rfl

theorem DirectiveKind.key_of_ofKey? {key : String} {kind : DirectiveKind}
    (found : ofKey? key = some kind) : kind.key = key := by
  simpa using List.find?_some found

namespace Shape

variable {members : List (String × Json)} {kind : DirectiveKind} {payload : Json}

theorem role_of_plain (plain : IsPlain members) (key : String) :
    Role.template.member members key = .template := by
  rw [Role.member, if_pos (kindsOf_nil.mpr plain)]

theorem IsDirective.not_plain (directive : IsDirective kind members payload) :
    kindsOf members ≠ [] := by
  intro none
  have absent := kindsOf_nil.mp none kind
  simp [Json.hasKey, directive.payload] at absent

theorem IsDirective.kinds (directive : IsDirective kind members payload) :
    kindsOf members = [kind] := by
  refine kindsOf_singleton.mpr ?_
  rwa [memberOrNull, directive.payload]

theorem IsDirective.of_kinds (single : kindsOf members = [kind]) :
    ∃ payload, IsDirective kind members payload :=
  ⟨_, kindsOf_singleton.mp single⟩

theorem IsDirective.role_own (directive : IsDirective kind members payload) :
    Role.template.member members kind.key = .payload kind := by
  rw [Role.member, if_neg directive.not_plain, DirectiveKind.ofKey?_key]

/-- No other key of a directive is a directive key, so what is under it is data. -/
theorem IsDirective.role_other (directive : IsDirective kind members payload) {m : String × Json}
    (member : m ∈ members) (other : m.1 ≠ kind.key) :
    Role.template.member members m.1 = .data := by
  rw [Role.member, if_neg directive.not_plain]
  cases found : DirectiveKind.ofKey? m.1 with
  | none => rfl
  | some k =>
    have same := DirectiveKind.key_of_ofKey? found
    have has : Json.hasKey members k.key := by
      refine eq_true_of_ne_false fun absent => ?_
      exact Json.hasKey_eq_false.mp absent m member same.symm
    rw [directive.only k has] at same
    exact absurd same.symm other

theorem memberOrNull_of_find? {key : String} {value : Json}
    (found : Json.find? members key = some value) : memberOrNull members key = value := by
  rw [memberOrNull, found]
  rfl

theorem distinct_memberOrNull (distinct : Json.keysDistinctMembers members) (key : String) :
    (memberOrNull members key).keysDistinct := by
  unfold memberOrNull
  cases found : Json.find? members key with
  | none => rfl
  | some value => exact Json.keysDistinct_of_mem distinct _ (Json.mem_of_find? found)

end Shape

open Shape

/-! ### The directives inside -/

section

variable {members inner : List (String × Json)} {kind : DirectiveKind} {payload : Json}

theorem sources_plain (plain : IsPlain members) (pointer : String) :
    sources .template pointer (.object members) =
      sourcesMembers (fun _ => .template) pointer members := by
  rw [sources, Role.source_plain (kindsOf_nil.mpr plain)]
  simp only [role_of_plain plain, List.nil_append]

theorem sources_directive (directive : IsDirective kind members payload)
    (distinct : Json.keysDistinctMembers members) (pointer : String) :
    sources .template pointer (.object members) =
      ⟨kind, pointer, members⟩ ::
        sources (.payload kind) (Pointer.child pointer kind.key) payload := by
  have own := memberOrNull_of_find? directive.payload
  rw [sources, Role.source_single directive.kinds,
    sourcesMembers_single distinct fun _ => directive.role_other, directive.role_own, own]
  rfl

theorem sources_faker (payload : Json) (pointer : String) :
    sources (.payload .faker) pointer payload = [] := by
  cases payload with
  | array items => exact sourcesItems_eq_nil (fun item _ => sources_data item) pointer 0
  | object inner => exact sourcesMembers_eq_nil (fun m _ => sources_data m.2) pointer
  | _ => rfl

/-- Where the payload of a directive has a template under one key and data under all others. -/
theorem sources_member (role : Role) {inside : Role} {key : String} (other : role ≠ .template)
    (roles : ∀ k, role.member inner k = if k = key then inside else .data)
    (distinct : Json.keysDistinctMembers inner) (pointer : String) :
    sources role pointer (.object inner) =
      sources inside (Pointer.child pointer key) (memberOrNull inner key) := by
  have rest : ∀ m ∈ inner, m.1 ≠ key → role.member inner m.1 = .data := by
    intro m _ different
    rw [roles, if_neg different]
  rw [sources, Role.source_other other, sourcesMembers_single distinct rest, roles, if_pos rfl]
  rfl

theorem sources_array (distinct : Json.keysDistinctMembers inner) (pointer : String) :
    sources (.payload .array) pointer (.object inner) =
      sources .template (Pointer.child pointer "element") (memberOrNull inner "element") :=
  sources_member (.payload .array) nofun (fun _ => rfl) distinct pointer

theorem sources_oneOf (distinct : Json.keysDistinctMembers inner) (pointer : String) :
    sources (.payload .oneOf) pointer (.object inner) =
      sources .options (Pointer.child pointer "options") (memberOrNull inner "options") :=
  sources_member (.payload .oneOf) nofun (fun _ => rfl) distinct pointer

theorem sources_nullable (distinct : Json.keysDistinctMembers inner) (pointer : String) :
    sources (.payload .nullable) pointer (.object inner) =
      sources .template (Pointer.child pointer "value") (memberOrNull inner "value") :=
  sources_member (.payload .nullable) nofun (fun _ => rfl) distinct pointer

theorem sources_document (distinct : Json.keysDistinctMembers inner) (pointer : String) :
    sources .document pointer (.object inner) =
      sources .template (Pointer.child pointer "template") (memberOrNull inner "template") :=
  sources_member .document nofun (fun _ => rfl) distinct pointer

end

/-! ### The templates inside -/

namespace Role

variable {role : Role} {members inner : List (String × Json)} {tokens : List String} {v : Json}

theorem follow?_items {items : List Json}
    (reached : role.follow? (.array items) tokens = some (.template, v))
    (other : role ≠ .template) :
    ∃ item ∈ items, ∃ rest, role.item.follow? item rest = some (.template, v) := by
  cases tokens with
  | nil => exact absurd (congrArg Prod.fst (Option.some.inj reached)) other
  | cons token rest =>
    obtain ⟨item, step, reached⟩ := Option.bind_eq_some_iff.mp reached
    obtain ⟨i, _, found⟩ := Option.bind_eq_some_iff.mp step
    exact ⟨item, List.mem_of_getElem? found, rest, reached⟩

theorem follow?_members
    (reached : role.follow? (.object members) tokens = some (.template, v))
    (other : role ≠ .template) :
    ∃ key inside rest, Json.find? members key = some inside ∧
      (role.member members key).follow? inside rest = some (.template, v) := by
  cases tokens with
  | nil => exact absurd (congrArg Prod.fst (Option.some.inj reached)) other
  | cons token rest =>
    obtain ⟨inside, step, reached⟩ := Option.bind_eq_some_iff.mp reached
    exact ⟨token, inside, rest, step, reached⟩

/-- Where data is under all keys but one, templates are reached through that key. -/
theorem follow?_member {role inside : Role} {key : String}
    (reached : role.follow? (.object inner) tokens = some (.template, v))
    (roles : ∀ k, role.member inner k = if k = key then inside else .data)
    (other : role ≠ .template) :
    ∃ w rest, Json.find? inner key = some w ∧ inside.follow? w rest = some (.template, v) := by
  obtain ⟨k, w, rest, found, reached⟩ := follow?_members reached other
  rw [roles] at reached
  split at reached
  · rename_i same
    exact ⟨w, rest, same ▸ found, reached⟩
  · exact nomatch follow?_data reached

end Role

end MockData
