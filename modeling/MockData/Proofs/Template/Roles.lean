import MockData.Proofs.Json.Pointer
import MockData.Proofs.Template.Shapes

/-!
# Roles in a document

What each value in a document is there for follows from the keys above it: some are templates, and
some are only the way to templates. `Role.follow?` goes down a document with the role of every value
on the way, and `sources` walks through the whole document and lists the directives in it.
-/

namespace MockData

/-- What a value in a document is there for. Nothing inside plain data is a template. -/
inductive Role where
  | document
  | template
  | payload (kind : DirectiveKind)
  | options
  | data
  deriving DecidableEq

def DirectiveKind.ofKey? (key : String) : Option DirectiveKind :=
  all.find? fun kind => kind.key = key

namespace Role

def item : Role → Role
  | .template => .template
  | .payload .oneOf => .template
  | .options => .template
  | _ => .data

def member (members : List (String × Json)) (key : String) : Role → Role
  | .document => if key = "template" then .template else .data
  | .template =>
    if Shape.kindsOf members = [] then .template
    else
      match DirectiveKind.ofKey? key with
      | some kind => .payload kind
      | none => .data
  | .payload .array => if key = "element" then .template else .data
  | .payload .oneOf => if key = "options" then .options else .data
  | .payload .nullable => if key = "value" then .template else .data
  | _ => .data

def under (role : Role) (value : Json) (token : String) : Role :=
  match value with
  | .object members => role.member members token
  | _ => role.item

def follow? (role : Role) (value : Json) : List String → Option (Role × Json)
  | [] => some (role, value)
  | token :: rest => (value.step? token).bind fun inner => (role.under value token).follow? inner rest

theorem follow?_cons {role : Role} {value inner : Json} {token : String}
    (step : value.step? token = some inner) (rest : List String) :
    role.follow? value (token :: rest) = (role.under value token).follow? inner rest := by
  rw [follow?, step, Option.bind_some]

theorem at?_of_follow? {role other : Role} {value inner : Json} {tokens : List String}
    (reached : role.follow? value tokens = some (other, inner)) : value.at? tokens = some inner := by
  induction tokens generalizing role value with
  | nil =>
    cases reached
    rfl
  | cons token rest ih =>
    obtain ⟨next, step, reached⟩ := Option.bind_eq_some_iff.mp reached
    exact Option.bind_eq_some_iff.mpr ⟨next, step, ih reached⟩

theorem follow?_data {role : Role} {value inner : Json} {tokens : List String}
    (reached : data.follow? value tokens = some (role, inner)) : role = .data := by
  induction tokens generalizing value with
  | nil =>
    cases reached
    rfl
  | cons token rest ih =>
    obtain ⟨next, _, reached⟩ := Option.bind_eq_some_iff.mp reached
    have stays : data.under value token = .data := by cases value <;> rfl
    exact ih (stays ▸ reached)

end Role

/-- An object that is a directive: its kind, the pointer to it and its members. -/
structure Source where
  kind : DirectiveKind
  pointer : String
  members : List (String × Json)

def Role.source (role : Role) (pointer : String) (members : List (String × Json)) : List Source :=
  match role, Shape.kindsOf members with
  | .template, [kind] => [⟨kind, pointer, members⟩]
  | _, _ => []

namespace Role

variable {role : Role} {pointer : String} {members : List (String × Json)}

theorem source_single {kind : DirectiveKind} (single : Shape.kindsOf members = [kind]) :
    template.source pointer members = [⟨kind, pointer, members⟩] := by
  simp [source, single]

theorem source_plain (plain : Shape.kindsOf members = []) : role.source pointer members = [] := by
  simp [source, plain]

theorem mem_source {s : Source} : s ∈ role.source pointer members ↔
    role = .template ∧ Shape.kindsOf members = [s.kind] ∧ s.pointer = pointer ∧
      s.members = members := by
  unfold source
  split
  · rename_i kind single
    obtain ⟨k, p, ms⟩ := s
    simp [single, eq_comm]
  · rename_i other
    refine iff_of_false List.not_mem_nil ?_
    rintro ⟨rfl, single, _⟩
    exact other _ rfl single

theorem source_other (other : role ≠ .template) : role.source pointer members = [] :=
  List.eq_nil_iff_forall_not_mem.mpr fun _ listed => other (mem_source.mp listed).1

end Role

mutual
/-- The directives in a value, in the order of the text: an outer one before those inside it. -/
def sources (role : Role) (pointer : String) : Json → List Source
  | .array items => sourcesItems role.item pointer 0 items
  | .object members =>
    role.source pointer members ++ sourcesMembers (fun key => role.member members key) pointer members
  | _ => []
def sourcesItems (role : Role) (pointer : String) (index : Nat) : List Json → List Source
  | [] => []
  | item :: rest =>
    sources role (Pointer.child pointer (toString index)) item ++
      sourcesItems role pointer (index + 1) rest
def sourcesMembers (role : String → Role) (pointer : String) : List (String × Json) → List Source
  | [] => []
  | (key, value) :: rest =>
    sources (role key) (Pointer.child pointer key) value ++ sourcesMembers role pointer rest
end

/-! ### What is listed -/

theorem sourcesItems_eq_nil {role : Role} {items : List Json}
    (none : ∀ item ∈ items, ∀ pointer, sources role pointer item = []) (pointer : String)
    (index : Nat) : sourcesItems role pointer index items = [] := by
  induction items generalizing index with
  | nil => rfl
  | cons item rest ih =>
    obtain ⟨first, others⟩ := List.forall_mem_cons.mp none
    rw [sourcesItems, first, ih others]
    rfl

theorem sourcesMembers_eq_nil {role : String → Role} {members : List (String × Json)}
    (none : ∀ m ∈ members, ∀ pointer, sources (role m.1) pointer m.2 = []) (pointer : String) :
    sourcesMembers role pointer members = [] := by
  induction members with
  | nil => rfl
  | cons m rest ih =>
    obtain ⟨first, others⟩ := List.forall_mem_cons.mp none
    rw [sourcesMembers, first, ih others]
    rfl

theorem sources_data (value : Json) (pointer : String) : sources .data pointer value = [] := by
  induction value using Json.nested generalizing pointer with
  | array items ih =>
    rw [sources]
    exact sourcesItems_eq_nil ih _ _
  | object members ih =>
    rw [sources]
    exact sourcesMembers_eq_nil ih _
  | _ => rfl

/-- Where all other members are data, only what is under one key counts. -/
theorem sourcesMembers_single {role : String → Role} {pointer key : String}
    {members : List (String × Json)} (distinct : Json.keysDistinctMembers members)
    (others : ∀ m ∈ members, m.1 ≠ key → role m.1 = .data) :
    sourcesMembers role pointer members =
      sources (role key) (Pointer.child pointer key) (Shape.memberOrNull members key) := by
  unfold Shape.memberOrNull
  induction members with
  | nil => rfl
  | cons m rest ih =>
    obtain ⟨k, value⟩ := m
    obtain ⟨_, fresh, distinct⟩ := Json.keysDistinctMembers_cons.mp distinct
    obtain ⟨first, behind⟩ := List.forall_mem_cons.mp others
    rw [sourcesMembers, Json.find?_cons]
    by_cases here : key = k
    · subst here
      have nothing : ∀ m ∈ rest, ∀ pointer, sources (role m.1) pointer m.2 = [] := by
        intro m member pointer
        rw [behind m member (Json.find?_eq_none_iff.mp fresh m member), sources_data]
      rw [if_pos rfl, sourcesMembers_eq_nil nothing, List.append_nil]
      rfl
    · rw [if_neg here, first (Ne.symm here), sources_data, ih distinct behind]
      rfl

/-! ### Where it is -/

section

variable {s : Source} {role : Role} {pointer : String}

theorem mem_sourcesItems {index : Nat} {items : List Json} :
    s ∈ sourcesItems role pointer index items ↔ ∃ i item, items[i]? = some item ∧
      s ∈ sources role (Pointer.child pointer (toString (index + i))) item := by
  induction items generalizing index with
  | nil => simp [sourcesItems]
  | cons first rest ih =>
    rw [sourcesItems, List.mem_append, ih]
    constructor
    · rintro (here | ⟨i, item, found, inside⟩)
      · exact ⟨0, first, rfl, here⟩
      · exact ⟨i + 1, item, found, by rwa [Nat.add_right_comm, Nat.add_assoc] at inside⟩
    · rintro ⟨i, item, found, inside⟩
      cases i with
      | zero =>
        cases found
        exact .inl inside
      | succ i =>
        exact .inr ⟨i, item, found, by rwa [Nat.add_right_comm, Nat.add_assoc]⟩

theorem mem_sourcesMembers {role : String → Role} {members : List (String × Json)} :
    s ∈ sourcesMembers role pointer members ↔
      ∃ m ∈ members, s ∈ sources (role m.1) (Pointer.child pointer m.1) m.2 := by
  induction members with
  | nil => simp [sourcesMembers]
  | cons m rest ih =>
    simp only [sourcesMembers, List.mem_append, ih, List.mem_cons, exists_eq_or_imp]

/-- The directives listed are those that tokens lead to. -/
theorem mem_sources_iff {value : Json} (distinct : value.keysDistinct) :
    s ∈ sources role pointer value ↔ Shape.kindsOf s.members = [s.kind] ∧ ∃ tokens,
      s.pointer = tokens.foldl Pointer.child pointer ∧
        role.follow? value tokens = some (.template, .object s.members) := by
  constructor
  -- From the listing to the tokens the induction is on the value, and back it is on the tokens.
  · intro listed
    induction value using Json.nested generalizing role pointer with
    | array items ih =>
      rw [sources, mem_sourcesItems] at listed
      obtain ⟨i, item, found, inside⟩ := listed
      have member := List.mem_of_getElem? found
      obtain ⟨single, tokens, same, reached⟩ :=
        ih item member (Json.keysDistinct_array.mp distinct item member) inside
      refine ⟨single, toString i :: tokens, ?_, ?_⟩
      · rw [same, Nat.zero_add]
        rfl
      · rw [Role.follow?_cons (Json.step?_item found)]
        exact reached
    | object members ih =>
      rw [sources, List.mem_append, Role.mem_source, mem_sourcesMembers] at listed
      rcases listed with ⟨rfl, single, same, rfl⟩ | ⟨m, member, inside⟩
      · exact ⟨single, [], same, rfl⟩
      · obtain ⟨single, tokens, same, reached⟩ :=
          ih m member (Json.keysDistinct_of_mem distinct m member) inside
        have found : (Json.object members).step? m.1 = some m.2 :=
          (Json.find?_eq_some_iff distinct).mpr member
        refine ⟨single, m.1 :: tokens, same, ?_⟩
        rw [Role.follow?_cons found]
        exact reached
    | _ => exact nomatch listed
  · rintro ⟨single, tokens, same, reached⟩
    induction tokens generalizing role pointer value with
    | nil =>
      cases reached
      rw [sources, List.mem_append, Role.mem_source]
      exact .inl ⟨rfl, single, same, rfl⟩
    | cons token rest ih =>
      obtain ⟨inner, step, reached⟩ := Option.bind_eq_some_iff.mp reached
      cases value with
      | array items =>
        obtain ⟨i, index, found⟩ := Option.bind_eq_some_iff.mp step
        have member := List.mem_of_getElem? found
        rw [sources, mem_sourcesItems]
        refine ⟨i, inner, found, ?_⟩
        rw [Nat.zero_add, Json.toString_of_index? index]
        exact ih (Json.keysDistinct_array.mp distinct inner member) same reached
      | object members =>
        have member := Json.mem_of_find? step
        rw [sources, List.mem_append, mem_sourcesMembers]
        refine .inr ⟨_, member, ?_⟩
        exact ih (Json.keysDistinct_of_mem distinct _ member) same reached
      | _ => exact nomatch step

theorem pointer_of_mem_sources {value : Json} (distinct : value.keysDistinct)
    (listed : s ∈ sources role pointer value) :
    ∃ tokens : List String, s.pointer = tokens.foldl Pointer.child pointer := by
  obtain ⟨_, tokens, same, _⟩ := (mem_sources_iff distinct).mp listed
  exact ⟨tokens, same⟩

theorem token_eq_of_pointer_eq {s t : Source} {role other : Role} {pointer one two : String}
    {v w : Json} (distinct : v.keysDistinct) (distinct' : w.keysDistinct)
    (listed : s ∈ sources role (Pointer.child pointer one) v)
    (listed' : t ∈ sources other (Pointer.child pointer two) w) (same : s.pointer = t.pointer) :
    one = two := by
  obtain ⟨tokens, here⟩ := pointer_of_mem_sources distinct listed
  obtain ⟨others, there⟩ := pointer_of_mem_sources distinct' listed'
  have folded : (one :: tokens).foldl Pointer.child pointer =
      (two :: others).foldl Pointer.child pointer := here.symm.trans (same.trans there)
  exact (List.cons.inj (Pointer.foldl_child_injective folded)).1

theorem sourcesItems_nodup {items : List Json} (distinct : ∀ item ∈ items, item.keysDistinct)
    (inside : ∀ item ∈ items, ∀ pointer, ((sources role pointer item).map Source.pointer).Nodup)
    (index : Nat) : ((sourcesItems role pointer index items).map Source.pointer).Nodup := by
  induction items generalizing index with
  | nil => exact List.nodup_nil
  | cons item rest ih =>
    obtain ⟨first, others⟩ := List.forall_mem_cons.mp distinct
    obtain ⟨here, behind⟩ := List.forall_mem_cons.mp inside
    rw [sourcesItems, List.map_append, List.nodup_append]
    refine ⟨here _, ih others behind _, ?_⟩
    intro p member q later same
    obtain ⟨s, listed, rfl⟩ := List.mem_map.mp member
    obtain ⟨t, listed', rfl⟩ := List.mem_map.mp later
    obtain ⟨i, v, found, listed'⟩ := mem_sourcesItems.mp listed'
    have tokens := token_eq_of_pointer_eq first (others v (List.mem_of_getElem? found)) listed
      listed' same
    have indices := congrArg Json.index? tokens
    rw [Json.index?_toString, Json.index?_toString, Option.some.injEq] at indices
    omega

theorem sourcesMembers_nodup {role : String → Role} {members : List (String × Json)}
    (distinct : Json.keysDistinctMembers members)
    (inside : ∀ m ∈ members, ∀ role pointer, ((sources role pointer m.2).map Source.pointer).Nodup) :
    ((sourcesMembers role pointer members).map Source.pointer).Nodup := by
  induction members with
  | nil => exact List.nodup_nil
  | cons m rest ih =>
    obtain ⟨key, value⟩ := m
    obtain ⟨first, fresh, others⟩ := Json.keysDistinctMembers_cons.mp distinct
    obtain ⟨here, behind⟩ := List.forall_mem_cons.mp inside
    rw [sourcesMembers, List.map_append, List.nodup_append]
    refine ⟨here _ _, ih others behind, ?_⟩
    intro p member q later same
    obtain ⟨s, listed, rfl⟩ := List.mem_map.mp member
    obtain ⟨t, listed', rfl⟩ := List.mem_map.mp later
    obtain ⟨n, there, listed'⟩ := mem_sourcesMembers.mp listed'
    have keys := token_eq_of_pointer_eq first (Json.keysDistinct_of_mem others n there) listed
      listed' same
    exact Json.find?_eq_none_iff.mp fresh n there keys.symm

/-- No two directives have the same pointer. -/
theorem sources_nodup {value : Json} (distinct : value.keysDistinct) :
    ((sources role pointer value).map Source.pointer).Nodup := by
  induction value using Json.nested generalizing role pointer with
  | array items ih =>
    have each := Json.keysDistinct_array.mp distinct
    rw [sources]
    exact sourcesItems_nodup each (fun item member _ => ih item member (each item member)) 0
  | object members ih =>
    have each := Json.keysDistinct_of_mem distinct
    rw [sources, List.map_append, List.nodup_append]
    refine ⟨?_, sourcesMembers_nodup distinct fun m member _ _ => ih m member (each m member), ?_⟩
    · unfold Role.source
      split
      · simp
      · exact List.nodup_nil
    -- The pointer of the object itself has no token, and every one below it has some.
    · intro p own q below same
      obtain ⟨s, listed, rfl⟩ := List.mem_map.mp own
      obtain ⟨t, listed', rfl⟩ := List.mem_map.mp below
      obtain ⟨_, _, here, _⟩ := Role.mem_source.mp listed
      obtain ⟨m, member, listed'⟩ := mem_sourcesMembers.mp listed'
      obtain ⟨tokens, there⟩ := pointer_of_mem_sources (each m member) listed'
      have folded : [].foldl Pointer.child pointer = (m.1 :: tokens).foldl Pointer.child pointer :=
        here.symm.trans (same.trans there)
      exact nomatch Pointer.foldl_child_injective folded
  | _ => exact List.nodup_nil

end

end MockData
