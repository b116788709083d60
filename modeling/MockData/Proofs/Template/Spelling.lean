import MockData.Proofs.Except
import MockData.Proofs.Template.Sources

/-!
# Short and long spellings

The path of a call may stand under the directive key itself or under `path`, and the options of a
choice may stand there or under `options`. A value is respelled if some of the short spellings among
its templates are made long. The readers accept the same of it as before, and refuse it for the same
cause: `read?_alike`, `read?_call` and `read?_choice`.
-/

namespace MockData

open Shape

/-- The second value is the first one with some of its short spellings made long: the arguments of a
call move next to its path, and the options of a choice under a key. -/
inductive Respelled : Role → Json → Json → Prop where
  | same (role : Role) (v : Json) : Respelled role v v
  | array {role : Role} {items others : List Json} (length : items.length = others.length)
      (each : ∀ v w, (v, w) ∈ items.zip others → Respelled role.item v w) :
      Respelled role (.array items) (.array others)
  | object {role : Role} {members others : List (String × Json)}
      (keys : members.map Prod.fst = others.map Prod.fst)
      (each : ∀ m n, (m, n) ∈ members.zip others → Respelled (role.member members m.1) m.2 n.2) :
      Respelled role (.object members) (.object others)
  | call {members inner : List (String × Json)} {path : String}
      (keys : KeysWithin members [DirectiveKind.faker.key, "args"])
      (named : Json.find? members DirectiveKind.faker.key = some (.string path))
      (inner_keys : KeysWithin inner ["path", "args"])
      (inner_named : Json.find? inner "path" = some (.string path))
      (inner_args : Json.find? inner "args" = Json.find? members "args") :
      Respelled .template (.object members) (.object [(DirectiveKind.faker.key, .object inner)])
  | choice {options others : List Json} (length : options.length = others.length)
      (each : ∀ v w, (v, w) ∈ options.zip others → Respelled .template v w) :
      Respelled .template (.object [(DirectiveKind.oneOf.key, .array options)])
        (.object [(DirectiveKind.oneOf.key, .object [("options", .array others)])])

namespace Respelled

def Inert (role : Role) : Prop :=
  role ≠ .template ∧ role.item = .data ∧ ∀ members key, role.member members key = .data

theorem inert_data : Inert .data := ⟨nofun, rfl, fun _ _ => rfl⟩

theorem inert_call : Inert (.payload .faker) := ⟨nofun, rfl, fun _ _ => rfl⟩

theorem forall₂_items {role : Role} {items others : List Json}
    (length : items.length = others.length)
    (each : ∀ v w, (v, w) ∈ items.zip others → Respelled role v w) :
    List.Forall₂ (Respelled role) items others :=
  List.forall₂_iff_zip.mpr ⟨length, fun {v w} => each v w⟩

theorem forall₂_members {R : String × Json → String × Json → Prop}
    {members others : List (String × Json)} (keys : members.map Prod.fst = others.map Prod.fst)
    (each : ∀ m n, (m, n) ∈ members.zip others → R m n) :
    List.Forall₂ (fun m n => m.1 = n.1 ∧ R m n) members others := by
  induction members generalizing others with
  | nil =>
    obtain rfl := List.map_eq_nil_iff.mp keys.symm
    exact .nil
  | cons m rest ih =>
    cases others with
    | nil => exact nomatch keys
    | cons n more =>
      obtain ⟨key, keys⟩ := List.cons.inj keys
      have later := ih keys fun m n pair => each m n (List.mem_cons_of_mem _ pair)
      exact .cons ⟨key, each m n List.mem_cons_self⟩ later

theorem eq_of_inert {role : Role} {v w : Json} (respelled : Respelled role v w)
    (inert : Inert role) : v = w := by
  induction respelled with
  | same role v => rfl
  | array length each ih =>
    have equal := fun v w pair => ih v w pair (inert.2.1 ▸ inert_data)
    have all := List.forall₂_iff_zip.mpr ⟨length, fun {v w} => equal v w⟩
    rw [List.forall₂_eq_eq_eq] at all
    rw [all]
  | object keys each ih =>
    have equal := fun m n pair => ih m n pair (inert.2.2 _ m.1 ▸ inert_data)
    have all := (forall₂_members keys equal).imp fun m n same => Prod.ext same.1 same.2
    rw [List.forall₂_eq_eq_eq] at all
    rw [all]
  | call => exact absurd rfl inert.1
  | choice => exact absurd rfl inert.1

def Members (role : String → Role) : List (String × Json) → List (String × Json) → Prop :=
  List.Forall₂ fun m n => m.1 = n.1 ∧ Respelled (role m.1) m.2 n.2

theorem members_same (role : String → Role) (members : List (String × Json)) :
    Members role members members :=
  List.forall₂_same.mpr fun m _ => ⟨rfl, .same _ m.2⟩

namespace Members

variable {role : String → Role} {members others : List (String × Json)}

theorem keys (respelled : Members role members others) :
    members.map Prod.fst = others.map Prod.fst := by
  induction respelled with
  | nil => rfl
  | cons first _ ih => rw [List.map_cons, List.map_cons, first.1, ih]

/-- A key is absent as before, or finds a respelled value. -/
theorem find? (respelled : Members role members others) (key : String) :
    (Json.find? members key = none ∧ Json.find? others key = none) ∨
      ∃ v w, Json.find? members key = some v ∧ Json.find? others key = some w ∧
        Respelled (role key) v w := by
  induction respelled with
  | nil => exact .inl ⟨rfl, rfl⟩
  | @cons m n rest more first _ ih =>
    obtain ⟨k, v⟩ := m
    obtain ⟨l, w⟩ := n
    obtain ⟨same, value⟩ := first
    dsimp only at same value
    rw [Json.find?_cons, Json.find?_cons, ← same]
    split
    · rename_i here
      rw [here]
      exact .inr ⟨v, w, rfl, rfl, value⟩
    · exact ih

theorem find?_eq (respelled : Members role members others) {key : String}
    (inert : Inert (role key)) : Json.find? members key = Json.find? others key := by
  rcases respelled.find? key with ⟨here, there⟩ | ⟨v, w, here, there, value⟩
  · rw [here, there]
  · rw [here, there, value.eq_of_inert inert]

theorem kindsOf (respelled : Members role members others) :
    Shape.kindsOf members = Shape.kindsOf others := by
  refine List.filter_congr fun kind _ => ?_
  unfold Json.hasKey
  rcases respelled.find? kind.key with ⟨here, there⟩ | ⟨v, w, here, there, _⟩
  · rw [here, there]
  · rw [here, there, Option.isSome_some, Option.isSome_some]

theorem memberOrNull (respelled : Members role members others) (key : String) :
    Respelled (role key) (Shape.memberOrNull members key) (Shape.memberOrNull others key) := by
  unfold Shape.memberOrNull
  rcases respelled.find? key with ⟨here, there⟩ | ⟨v, w, here, there, value⟩
  · rw [here, there]
    exact .same _ .null
  · rw [here, there]
    exact value

end Members

def Inside (role : Role) (members others : List (String × Json)) : Prop :=
  Members (fun key => role.member members key) members others

theorem inside_object {role : Role} {members others : List (String × Json)}
    (keys : members.map Prod.fst = others.map Prod.fst)
    (each : ∀ m n, (m, n) ∈ members.zip others → Respelled (role.member members m.1) m.2 n.2) :
    Inside role members others := forall₂_members keys each

end Respelled

/-! ### Readers -/

namespace Shape

/-- The shapes have the same parts, with respelled templates inside; the options may have moved under
their key. -/
inductive Alike : Shape → Shape → Prop where
  | faker (path : String) (args : Option (List (String × Json))) :
      Alike (.faker path args) (.faker path args)
  | array (cardinality : Cardinality) {v w : Json} (inside : Respelled .template v w) :
      Alike (.array cardinality v) (.array cardinality w)
  | oneOf (tokens : List String) {options others : List Json}
      (inside : List.Forall₂ (Respelled .template) options others) :
      Alike (.oneOf tokens options) (.oneOf tokens others)
  | moved {options others : List Json}
      (inside : List.Forall₂ (Respelled .template) options others) :
      Alike (.oneOf [] options) (.oneOf ["options"] others)
  | nullable (probability : Binary64) {v w : Json} (inside : Respelled .template v w) :
      Alike (.nullable probability v) (.nullable probability w)

theorem alike_same (shape : Shape) : Alike shape shape := by
  cases shape with
  | faker path args => exact .faker path args
  | array cardinality v => exact .array cardinality (.same _ v)
  | oneOf tokens options =>
    exact .oneOf tokens (List.forall₂_same.mpr fun v _ => .same _ v)
  | nullable probability v => exact .nullable probability (.same _ v)

theorem alike_read (read : Option Shape) : Option.Rel Alike read read := by
  cases read with
  | none => exact .none
  | some shape => exact .some (alike_same shape)

variable {members others : List (String × Json)} {v w : Json}

theorem checkKeys_eq (kind : DirectiveKind) (members : List (String × Json))
    (allowed : List String) : checkKeys kind members allowed =
      match (members.map Prod.fst).find? fun key => key != kind.key && !allowed.contains key with
      | some key => .error (.unexpectedKey kind key)
      | none => .ok () := by
  induction members with
  | nil => rfl
  | cons m rest ih =>
    unfold checkKeys at ih ⊢
    rw [List.find?_cons, List.map_cons, List.find?_cons]
    cases m.1 != kind.key && !allowed.contains m.1 with
    | true => rfl
    | false => exact ih

theorem checkKeys_congr (keys : members.map Prod.fst = others.map Prod.fst)
    (kind : DirectiveKind) (allowed : List String) :
    checkKeys kind members allowed = checkKeys kind others allowed := by
  rw [checkKeys_eq, keys, ← checkKeys_eq]

theorem readFaker_congr (keys : members.map Prod.fst = others.map Prod.fst)
    (args : Json.find? members "args" = Json.find? others "args") (payload : Json) :
    readFaker members payload = readFaker others payload := by
  unfold readFaker readPath
  simp only [checkKeys_congr keys, args]

/-- Payloads whose templates are respelled pass the same checks. -/
theorem readPayload_alike (keys : members.map Prod.fst = others.map Prod.fst)
    {kind : DirectiveKind} (respelled : Respelled (.payload kind) v w) (allowed : List String) :
    Corresponds Eq (Respelled.Inside (.payload kind))
      (readPayload kind members v allowed) (readPayload kind others w allowed) := by
  unfold readPayload
  rw [checkKeys_congr keys]
  refine Corresponds.bind_same _ fun _ => ?_
  cases respelled with
  | same v =>
    cases v with
    | object inner =>
      refine Corresponds.bind_same _ fun _ => ?_
      exact .ok (Respelled.members_same _ inner)
    | _ => exact .error rfl
  | array length each => exact .error rfl
  | object inner_keys each =>
    dsimp only
    rw [checkKeys_congr inner_keys]
    refine Corresponds.bind_same _ fun _ => ?_
    exact .ok (Respelled.inside_object inner_keys each)

theorem readBound_congr {key : String} (same : Json.find? members key = Json.find? others key) :
    readBound members key = readBound others key := by
  unfold readBound
  rw [same]

theorem readArray_alike (keys : members.map Prod.fst = others.map Prod.fst)
    (respelled : Respelled (.payload .array) v w) :
    Corresponds Eq Alike (readArray members v) (readArray others w) := by
  unfold readArray
  refine (readPayload_alike keys respelled _).bind fun inner more payload => ?_
  have data (key : String) (other : key ≠ "element") :
      Json.find? inner key = Json.find? more key := by
    apply payload.find?_eq
    rw [Role.member, if_neg other]
    exact Respelled.inert_data
  have cardinality : readCardinality inner = readCardinality more := by
    unfold readCardinality
    rw [readBound_congr (data "count" (by decide)), readBound_congr (data "min" (by decide)),
      readBound_congr (data "max" (by decide))]
  rw [cardinality]
  refine Corresponds.bind_same _ fun bounds => ?_
  exact .ok (.array bounds (payload.memberOrNull "element"))

theorem readNullable_alike (keys : members.map Prod.fst = others.map Prod.fst)
    (respelled : Respelled (.payload .nullable) v w) :
    Corresponds Eq Alike (readNullable members v) (readNullable others w) := by
  unfold readNullable
  refine (readPayload_alike keys respelled _).bind fun inner more payload => ?_
  have data : Json.find? inner "probability" = Json.find? more "probability" :=
    payload.find?_eq Respelled.inert_data
  have probability : readProbability inner = readProbability more := by
    unfold readProbability
    rw [data]
  rw [probability]
  refine Corresponds.bind_same _ fun p => ?_
  exact .ok (.nullable p (payload.memberOrNull "value"))

theorem readOneOf_alike (keys : members.map Prod.fst = others.map Prod.fst)
    (respelled : Respelled (.payload .oneOf) v w) :
    Corresponds Eq Alike (readOneOf members v) (readOneOf others w) := by
  unfold readOneOf
  rw [checkKeys_congr keys]
  refine Corresponds.bind_same _ fun _ => ?_
  cases respelled with
  | same v => exact .of_same (fun _ => rfl) alike_same _
  | array length each =>
    cases Respelled.forall₂_items length each with
    | nil => exact .error rfl
    | cons first later => exact .ok (.oneOf [] (.cons first later))
  | object inner_keys each =>
    dsimp only
    rw [checkKeys_congr inner_keys]
    refine Corresponds.bind_same _ fun _ => ?_
    have payload := Respelled.inside_object inner_keys each
    rcases payload.find? "options" with ⟨here, there⟩ | ⟨v, w, here, there, listed⟩
    · rw [here, there]
      exact .error rfl
    · rw [here, there]
      cases listed with
      | same v => exact .of_same (fun _ => rfl) alike_same _
      | array length each =>
        cases Respelled.forall₂_items length each with
        | nil => exact .error rfl
        | cons first later => exact .ok (.oneOf ["options"] (.cons first later))
      | object => exact .error rfl

/-- Members whose templates are respelled are plain as before, or the same directive, or refused for
the same cause. -/
theorem read?_alike (node : Respelled.Inside .template members others) :
    Corresponds Eq (Option.Rel Alike) (read? members) (read? others) := by
  have keys := node.keys
  unfold read?
  rw [← node.kindsOf]
  cases kinds : kindsOf members with
  | nil => exact .ok .none
  | cons kind rest =>
    cases rest with
    | cons _ _ => exact .error rfl
    | nil =>
      have directive := kindsOf_singleton.mp kinds
      have payload := node.memberOrNull kind.key
      rw [directive.role_own] at payload
      dsimp only
      cases kind with
      -- The payload of a call and the arguments beside it are data, so they are as they were.
      | faker =>
        have args : Json.find? members "args" = Json.find? others "args" := by
          apply node.find?_eq
          rw [Role.member, if_neg directive.not_plain]
          exact Respelled.inert_data
        have same := readFaker_congr keys args (memberOrNull members DirectiveKind.faker.key)
        rw [payload.eq_of_inert Respelled.inert_call] at same ⊢
        dsimp only
        rw [same]
        exact (Corresponds.of_same (fun _ => rfl) alike_same _).map fun _ _ => .some
      | array => exact (readArray_alike keys payload).map fun _ _ => .some
      | oneOf => exact (readOneOf_alike keys payload).map fun _ _ => .some
      | nullable => exact (readNullable_alike keys payload).map fun _ _ => .some

/-- The long spelling of a call is read like the short one. -/
theorem read?_call {inner : List (String × Json)} {path : String}
    (keys : KeysWithin members [DirectiveKind.faker.key, "args"])
    (named : Json.find? members DirectiveKind.faker.key = some (.string path))
    (inner_keys : KeysWithin inner ["path", "args"])
    (inner_named : Json.find? inner "path" = some (.string path))
    (inner_args : Json.find? inner "args" = Json.find? members "args") :
    read? [(DirectiveKind.faker.key, .object inner)] = read? members := by
  have single : kindsOf members = [.faker] := by
    have payload : memberOrNull members DirectiveKind.faker.key = .string path :=
      memberOrNull_of_find? named
    refine kindsOf_singleton.mpr ⟨by rw [payload, named], fun other has => ?_⟩
    obtain ⟨v, found⟩ := Option.isSome_iff_exists.mp has
    have listed : other.key ∈ [DirectiveKind.faker.key, "args"] := keys _ (Json.mem_of_find? found)
    cases other with
    | faker => rfl
    | _ => exact absurd listed (by decide)
  have alone : checkKeys .faker members ["args"] = .ok () := checkKeys_ok.mpr keys
  have inside : checkKeys .faker inner ["path", "args"] = .ok () :=
    checkKeys_ok.mpr fun m member => List.mem_cons_of_mem _ (inner_keys m member)
  have short : readPath members (.string path) = .ok (path, Json.find? members "args") := by
    rw [readPath, alone]
    rfl
  have long : readPath [(DirectiveKind.faker.key, .object inner)] (.object inner) =
      .ok (path, Json.find? members "args") := by
    rw [readPath, inside, inner_named, inner_args]
    rfl
  have read : readFaker [(DirectiveKind.faker.key, .object inner)] (.object inner) =
      readFaker members (.string path) := by
    rw [readFaker, readFaker, short, long]
  unfold read?
  rw [single]
  dsimp only
  rw [memberOrNull_of_find? named, ← read]
  rfl

theorem read?_choice {options others : List Json}
    (inside : List.Forall₂ (Respelled .template) options others) :
    Corresponds Eq (Option.Rel Alike) (read? [(DirectiveKind.oneOf.key, .array options)])
      (read? [(DirectiveKind.oneOf.key, .object [("options", .array others)])]) := by
  cases inside with
  | nil => exact .error rfl
  | cons first later => exact .ok (.some (.moved (.cons first later)))

end Shape

end MockData
