import MockData.Proofs.Template.Compilation
import MockData.Proofs.Template.Sources

/-!
# The keys of directives

Every directive in a value that can be compiled has no key but those that its reader looks at, and a
template with another key is refused (`compile_unknown_key`). One key slips through: a payload may
have the directive's own key as a member, and what is under it is passed over
(`compile_own_key_in_payload`).
-/

namespace MockData

namespace DirectiveKind

def beside : DirectiveKind → Json → List String
  | .faker, .string _ => ["args"]
  | _, _ => []

/-- The keys of a payload that is an object. -/
def documented : DirectiveKind → List String
  | .faker => ["path", "args"]
  | .array => ["element", "count", "min", "max"]
  | .oneOf => ["options"]
  | .nullable => ["value", "probability"]

end DirectiveKind

namespace Shape

variable {members : List (String × Json)} {kind : DirectiveKind} {payload : Json} {shape : Shape}

/-- The readers accept the documented keys and the directive's own, in the payload as well. -/
theorem Reads.keysWithin (reads : Reads members kind payload shape) :
    KeysWithin members (kind.key :: kind.beside payload) ∧
      ∀ inner, payload = .object inner → KeysWithin inner (kind.key :: kind.documented) := by
  cases reads with
  | faker call _ _ =>
    cases call with
    | short path alone => exact ⟨alone, nofun⟩
    | long alone keys _ =>
      refine ⟨alone, ?_⟩
      rintro _ ⟨⟩
      exact keys
  | array alone keys _ =>
    refine ⟨alone, ?_⟩
    rintro _ ⟨⟩
    exact keys
  | oneOf alone listed _ =>
    cases listed with
    | short options => exact ⟨alone, nofun⟩
    | long keys _ =>
      refine ⟨alone, ?_⟩
      rintro _ ⟨⟩
      exact keys
  | nullable alone keys _ =>
    refine ⟨alone, ?_⟩
    rintro _ ⟨⟩
    exact keys

/-- A template below a directive is the directive or lies in a template that was read from it. -/
theorem Reads.follow? (directive : IsDirective kind members payload)
    (reads : Reads members kind payload shape) {tokens : List String} {v : Json}
    (reached : Role.template.follow? (.object members) tokens = some (.template, v)) :
    v = .object members ∨ ∃ w ∈ shape.templates, ∃ rest,
      Role.template.follow? w rest = some (.template, v) := by
  cases tokens with
  | nil =>
    cases reached
    exact .inl rfl
  | cons token rest =>
    right
    obtain ⟨inside, step, reached⟩ := Option.bind_eq_some_iff.mp reached
    change (Role.template.member members token).follow? inside rest = _ at reached
    by_cases own : token = kind.key
    · subst own
      obtain rfl := Option.some.inj (directive.payload.symm.trans step)
      rw [directive.role_own] at reached
      cases reads with
      -- The payload of a call is data all the way down, whatever keys are in it.
      | @faker payload _ _ _ _ _ _ =>
        cases payload with
        | object inner =>
          obtain ⟨_, _, _, _, reached⟩ := Role.follow?_members reached nofun
          exact nomatch Role.follow?_data reached
        | array items =>
          obtain ⟨_, _, _, reached⟩ := Role.follow?_items reached nofun
          exact nomatch Role.follow?_data reached
        | _ => cases rest <;> exact nomatch reached
      | array _ _ _ =>
        obtain ⟨w, rest, found, reached⟩ := Role.follow?_member reached (fun _ => rfl) nofun
        exact ⟨w, List.mem_singleton.mpr (memberOrNull_of_find? found).symm, rest, reached⟩
      | oneOf _ listed _ =>
        cases listed with
        | short options =>
          obtain ⟨w, member, rest, reached⟩ := Role.follow?_items reached nofun
          exact ⟨w, member, rest, reached⟩
        | long _ found =>
          obtain ⟨list, rest, there, reached⟩ :=
            Role.follow?_member reached (fun _ => rfl) nofun
          obtain rfl := Option.some.inj (found.symm.trans there)
          obtain ⟨w, member, rest, reached⟩ := Role.follow?_items reached nofun
          exact ⟨w, member, rest, reached⟩
      | nullable _ _ _ =>
        obtain ⟨w, rest, found, reached⟩ := Role.follow?_member reached (fun _ => rfl) nofun
        exact ⟨w, List.mem_singleton.mpr (memberOrNull_of_find? found).symm, rest, reached⟩
    · rw [directive.role_other (Json.mem_of_find? step) own] at reached
      exact nomatch Role.follow?_data reached

end Shape

namespace Template

open Shape

/-- Whatever is at a template position of a value that can be compiled can be compiled itself. -/
theorem compileWithin_follow? {limit levels : Nat} {place : Location} {v w : Json} {t : Template}
    {tokens : List String} (compiled : compileWithin limit levels place v = .ok t)
    (reached : Role.template.follow? v tokens = some (.template, w)) :
    ∃ levels place t, compileWithin limit levels place w = .ok t := by
  -- On the levels and not on the value: a directive's templates are more than one token below it.
  induction levels generalizing place v t tokens with
  | zero => exact nomatch compiled
  | succ levels ih =>
    cases tokens with
    | nil =>
      cases reached
      exact ⟨_, _, _, compiled⟩
    | cons token rest =>
      cases v with
      | array items =>
        obtain ⟨item, step, below⟩ := Option.bind_eq_some_iff.mp reached
        obtain ⟨i, _, found⟩ := Option.bind_eq_some_iff.mp step
        obtain ⟨ts, all, _⟩ := map_ok.mp compiled
        obtain ⟨_, _, one⟩ := compileItems_each all item (List.mem_of_getElem? found)
        exact ih one below
      | object members =>
        rcases compileWithin_object_ok compiled with ⟨plain, ts, all, _⟩ |
          ⟨kind, payload, shape, directive, reads, inside⟩
        · obtain ⟨inside, step, below⟩ := Option.bind_eq_some_iff.mp reached
          obtain ⟨_, _, one⟩ := compileMembers_each all _ (Json.mem_of_find? step)
          change (Role.template.member members token).follow? inside rest = _ at below
          rw [role_of_plain plain] at below
          exact ih one below
        · rcases reads.follow? directive reached with rfl | ⟨w, listed, rest, below⟩
          · exact ⟨_, _, _, compiled⟩
          · obtain ⟨_, _, one⟩ := compileShape_each inside w listed
            exact ih one below
      | _ => exact nomatch reached

/-- Whatever has a directive key at a template position is a directive that can be read. -/
theorem reads_of_compile {value : Json} {root : String} {limit : Nat} {t : Template}
    (compiled : compile value root limit = .ok t) {tokens : List String}
    {members : List (String × Json)}
    (reached : Role.template.follow? value tokens = some (.template, .object members))
    {kind : DirectiveKind} {payload : Json}
    (found : Json.find? members kind.key = some payload) :
    ∃ shape, Reads members kind payload shape := by
  obtain ⟨levels, place, n, compiled⟩ := compileWithin_follow? compiled reached
  cases levels with
  | zero => exact nomatch compiled
  | succ levels =>
    have has : Json.hasKey members kind.key := by rw [Json.hasKey, found]; rfl
    rcases compileWithin_object_ok compiled with ⟨plain, _⟩ |
      ⟨other, given, shape, directive, reads, _⟩
    · exact absurd has (Bool.eq_false_iff.mp (plain kind))
    · obtain rfl := directive.only kind has
      obtain rfl := Option.some.inj (directive.payload.symm.trans found)
      exact ⟨shape, reads⟩

/-- A template is refused if one of its directives has a key beside its own that is not for its
arguments, or if a payload has a key that is neither documented nor the directive's own. -/
theorem compile_unknown_key {value : Json} {tokens : List String} {members : List (String × Json)}
    (reached : Role.template.follow? value tokens = some (.template, .object members))
    {kind : DirectiveKind} {payload : Json} (found : Json.find? members kind.key = some payload)
    (unknown : (∃ m ∈ members, m.1 ≠ kind.key ∧ m.1 ∉ kind.beside payload) ∨
      ∃ inner, payload = .object inner ∧ ∃ m ∈ inner, m.1 ≠ kind.key ∧ m.1 ∉ kind.documented)
    (root : String) (limit : Nat) : ∃ e, compile value root limit = .error e := by
  cases compiled : compile value root limit with
  | error e => exact ⟨e, rfl⟩
  | ok t =>
    obtain ⟨shape, reads⟩ := reads_of_compile compiled reached found
    obtain ⟨alone, keys⟩ := reads.keysWithin
    rcases unknown with ⟨m, member, other, stray⟩ | ⟨inner, same, m, member, other, stray⟩
    · exact absurd (List.mem_cons.mp (alone m member)) (not_or.mpr ⟨other, stray⟩)
    · exact absurd (List.mem_cons.mp (keys inner same m member)) (not_or.mpr ⟨other, stray⟩)

theorem compile_unknown_key_nested :
    let choice : List (String × Json) :=
      [("$oneOf", .object [("options", .array [.null]), ("weights", .array [])])]
    let value : Json := .object
      [("a/b", .object [("$array", .object [("count", .ofUInt64 2), ("element", .object choice)])])]
    Role.template.follow? value ["a/b", "$array", "element"] = some (.template, .object choice) ∧
      ∃ e, compile value "/template" 64 = .error e := by
  intro choice value
  have reached :
      Role.template.follow? value ["a/b", "$array", "element"] = some (.template, .object choice) :=
    rfl
  refine ⟨reached, @compile_unknown_key _ _ _ reached .oneOf _ rfl (.inr ?_) "/template" 64⟩
  exact ⟨_, rfl, ("weights", .array []), by simp, by decide, by decide⟩

/-- A payload with the directive's own key, which is not documented there, is accepted. -/
theorem compile_own_key_in_payload :
    let inner : List (String × Json) := [("$array", .string "skipped"), ("count", .ofUInt64 1)]
    let members : List (String × Json) := [("$array", .object inner)]
    Role.template.follow? (.object members) [] = some (.template, .object members) ∧
      Json.find? members DirectiveKind.array.key = some (.object inner) ∧
      (∃ m ∈ inner, m.1 ∉ DirectiveKind.array.documented) ∧
      compile (.object members) "" 64 =
        .ok (.array (.atRoot "") (.fixed 1) (.literal .null)) := by
  intro inner members
  exact ⟨rfl, rfl, ⟨("$array", .string "skipped"), List.mem_cons_self, by decide⟩, rfl⟩

end Template

end MockData
