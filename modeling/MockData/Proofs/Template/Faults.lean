import MockData.Proofs.Template.Parts

/-!
# Where compiling fails

A template that cannot be compiled is refused at one of its nodes (`compile_error_located`): at an
object with a directive key that cannot be read on its own either, or at a value that is nested too
deeply. Such a value may be a member that its directive leaves out.
-/

namespace MockData

namespace Template

open Shape

/-- The members that a directive has as null when they are left out. -/
inductive Optional : DirectiveKind → String → Prop where
  | element : Optional .array "element"
  | value : Optional .nullable "value"

/-- The value is at the end of the tokens, or it is the null of a member that is left out there. -/
inductive Stands (root : Json) : List String → Json → Prop where
  | there {tokens : List String} {v : Json} (found : root.at? tokens = some v) :
      Stands root tokens v
  | leftOut {above : List String} {kind : DirectiveKind} {key : String}
      {payload : List (String × Json)} (optional : Optional kind key)
      (holder : root.at? (above ++ [kind.key]) = some (.object payload))
      (absent : Json.find? payload key = none) : Stands root (above ++ [kind.key, key]) .null

section

variable {root v : Json} {tokens : List String} {part : Part}

theorem Stands.object {members : List (String × Json)}
    (stands : Stands root tokens (.object members)) : root.at? tokens = some (.object members) := by
  cases stands with
  | there found => exact found

theorem Stands.array {items : List Json} (stands : Stands root tokens (.array items)) :
    root.at? tokens = some (.array items) := by
  cases stands with
  | there found => exact found

theorem stands_item {items : List Json} {above : List String}
    (list : root.at? (tokens ++ above) = some (.array items))
    (mem : part ∈ Part.items above 0 items) : Stands root (tokens ++ part.tokens) part.value := by
  obtain ⟨i, found, path⟩ := Part.mem_items.mp mem
  rw [path, Nat.zero_add, ← List.append_assoc]
  exact .there ((Json.at?_concat _ list).trans (Json.step?_item found))

theorem stands_optional {inner : List (String × Json)} {kind : DirectiveKind} {key : String}
    (optional : Optional kind key)
    (holder : root.at? (tokens ++ [kind.key]) = some (.object inner)) :
    Stands root (tokens ++ [kind.key, key]) (memberOrNull inner key) := by
  unfold memberOrNull
  cases found : Json.find? inner key with
  | none => exact .leftOut optional holder found
  | some w =>
    rw [List.append_cons]
    exact .there ((Json.at?_concat key holder).trans found)

theorem stands_directive {members : List (String × Json)} {kind : DirectiveKind} {payload : Json}
    {shape : Shape} (there : root.at? tokens = some (.object members))
    (directive : IsDirective kind members payload) (reads : Reads members kind payload shape)
    (mem : part ∈ shape.parts) : Stands root (tokens ++ part.tokens) part.value := by
  have holder : root.at? (tokens ++ [kind.key]) = some payload :=
    (Json.at?_concat kind.key there).trans directive.payload
  cases reads with
  | faker _ _ _ => exact nomatch mem
  | array _ _ _ =>
    obtain rfl := List.mem_singleton.mp mem
    exact stands_optional .element holder
  | oneOf _ listed _ =>
    cases listed with
    | short options => exact stands_item holder mem
    | long _ found =>
      have list := (Json.at?_concat "options" holder).trans found
      rw [← List.append_cons] at list
      exact stands_item list mem
  | nullable _ _ _ =>
    obtain rfl := List.mem_singleton.mp mem
    exact stands_optional .value holder

theorem stands_part (distinct : v.keysDistinct) (stands : Stands root tokens v)
    (mem : part ∈ v.parts) : Stands root (tokens ++ part.tokens) part.value := by
  cases v with
  | array items =>
    have list : root.at? (tokens ++ []) = some (.array items) := by
      rw [List.append_nil]
      exact stands.array
    exact stands_item list mem
  | object members =>
    rcases Json.mem_parts_object mem with ⟨_, mem⟩ | ⟨kind, payload, shape, directive, reads, mem⟩
    · obtain ⟨m, member, rfl⟩ := List.mem_map.mp mem
      have found := (Json.find?_eq_some_iff distinct).mpr member
      exact .there ((Json.at?_concat m.1 stands.object).trans found)
    · exact stands_directive stands.object directive reads mem
  | _ => exact nomatch mem

theorem distinct_part (distinct : v.keysDistinct) (mem : part ∈ v.parts) :
    part.value.keysDistinct := by
  cases v with
  | array items => exact Json.keysDistinct_array.mp distinct _ (Part.value_mem_of_mem_items mem)
  | object members =>
    rcases Json.mem_parts_object mem with ⟨_, mem⟩ | ⟨kind, payload, shape, directive, reads, mem⟩
    · obtain ⟨m, member, rfl⟩ := List.mem_map.mp mem
      exact Json.keysDistinct_of_mem distinct m member
    · have inside := Json.keysDistinct_of_mem distinct _ (Json.mem_of_find? directive.payload)
      cases reads with
      | faker _ _ _ => exact nomatch mem
      | array _ _ _ =>
        obtain rfl := List.mem_singleton.mp mem
        exact distinct_memberOrNull inside _
      | oneOf _ listed _ =>
        have option := Part.value_mem_of_mem_items mem
        cases listed with
        | short options => exact Json.keysDistinct_array.mp inside _ option
        | long _ found =>
          have list := Json.keysDistinct_of_mem inside _ (Json.mem_of_find? found)
          exact Json.keysDistinct_array.mp list _ option
      | nullable _ _ _ =>
        obtain rfl := List.mem_singleton.mp mem
        exact distinct_memberOrNull inside _
  | _ => exact nomatch mem

end

/-! ### Failures -/

/-- What a failure says of the place that it names. -/
inductive Fault (root : Json) (tokens : List String) : DirectiveError → Prop where
  | malformed {place : Location} {members : List (String × Json)} {cause : Malformation}
      (there : root.at? tokens = some (.object members)) (read : read? members = .error cause) :
      Fault root tokens (.malformed place cause)
  | tooDeep {place : Location} {limit : Nat} {v : Json} (stands : Stands root tokens v) :
      Fault root tokens (.tooDeep place limit)

theorem compileWithin_fault {base place : Location} {limit levels : Nat} {root v : Json}
    {tokens : List String} {e : DirectiveError} (distinct : v.keysDistinct)
    (stands : Stands root tokens v) (here : place = base.below tokens)
    (failed : compileWithin limit levels place v = .error e) :
    ∃ tokens, e.place = base.below tokens ∧ Fault root tokens e := by
  -- What is compiled next stands at more tokens of the same document, so `root` never changes.
  induction levels generalizing v tokens place with
  | zero =>
    obtain rfl := Except.error.inj failed
    exact ⟨tokens, here, .tooDeep stands⟩
  | succ levels ih =>
    rw [compileWithin_succ] at failed
    rcases bind_error.mp failed with unread | ⟨build, _, inside⟩
    · obtain ⟨members, cause, rfl, read, rfl⟩ := frame_error unread
      exact ⟨tokens, here, .malformed stands.object read⟩
    · obtain ⟨part, mem, failed⟩ := mapM_error (map_error.mp inside)
      have next : place.below part.tokens = base.below (tokens ++ part.tokens) := by
        rw [here, Location.below_append]
      exact ih (distinct_part distinct mem) (stands_part distinct stands mem) next failed

/-- An object that cannot be read has a directive key, and is refused for the same cause alone. -/
theorem compile_malformed {members : List (String × Json)} {cause : Malformation}
    (read : read? members = .error cause) :
    (∃ kind : DirectiveKind, Json.hasKey members kind.key) ∧
      ∀ limit, compile (.object members) "" limit = .error (.malformed (.atRoot "") cause) := by
  constructor
  · by_contra none
    have plain : IsPlain members := fun kind => Bool.eq_false_iff.mpr fun has => none ⟨kind, has⟩
    rw [read?_none.mpr plain] at read
    exact nomatch read
  · intro limit
    rw [compile, compileWithin_succ, frame, read]
    rfl

inductive FailsAt (value : Json) (pointer : String) : DirectiveError → Prop where
  | malformed {place : Location} {cause : Malformation} {members : List (String × Json)}
      {kind : DirectiveKind} (there : value.pointed? pointer = some (.object members))
      (directive : Json.hasKey members kind.key)
      (alone : ∀ limit,
        compile (.object members) "" limit = .error (.malformed (.atRoot "") cause)) :
      FailsAt value pointer (.malformed place cause)
  | tooDeep {place : Location} {limit : Nat} {v : Json} (there : value.pointed? pointer = some v) :
      FailsAt value pointer (.tooDeep place limit)
  | noElement {place : Location} {limit : Nat} {above : String} {payload : List (String × Json)}
      (ends : pointer = above ++ "/$array/element")
      (holder : value.pointed? (above ++ "/$array") = some (.object payload))
      (absent : Json.find? payload "element" = none) :
      FailsAt value pointer (.tooDeep place limit)
  | noValue {place : Location} {limit : Nat} {above : String} {payload : List (String × Json)}
      (ends : pointer = above ++ "/$nullable/value")
      (holder : value.pointed? (above ++ "/$nullable") = some (.object payload))
      (absent : Json.find? payload "value" = none) : FailsAt value pointer (.tooDeep place limit)

theorem Fault.failsAt {value : Json} {tokens : List String} {e : DirectiveError}
    (fault : Fault value tokens e) : FailsAt value (tokens.foldl Pointer.child "") e := by
  cases fault with
  | malformed there read =>
    rw [← Json.pointed?_foldl_child] at there
    obtain ⟨⟨kind, directive⟩, alone⟩ := compile_malformed read
    exact .malformed there directive alone
  | tooDeep stands =>
    cases stands with
    | there found =>
      rw [← Json.pointed?_foldl_child] at found
      exact .tooDeep found
    | @leftOut above _ _ _ optional holder absent =>
      have pointers (more : List String) : (above ++ more).foldl Pointer.child "" =
          above.foldl Pointer.child "" ++ more.foldl Pointer.child "" := by
        rw [List.foldl_append, Pointer.foldl_child_eq]
      rw [← Json.pointed?_foldl_child, pointers] at holder
      cases optional with
      | element => exact .noElement (pointers _) holder absent
      | value => exact .noValue (pointers _) holder absent

/-- The place of a failure is the root with a pointer behind it. With distinct keys a pointer names
the member that was compiled. -/
theorem compile_error_located {value : Json} {root : String} {limit : Nat} {e : DirectiveError}
    (distinct : value.keysDistinct) (failed : compile value root limit = .error e) :
    ∃ pointer, e.place.text = root ++ pointer ∧ (Pointer.decode? pointer).isSome ∧
      FailsAt value pointer e := by
  have stands : Stands value [] value := .there rfl
  have here : Location.atRoot root = (Location.atRoot root).below [] := rfl
  obtain ⟨tokens, place, fault⟩ := compileWithin_fault distinct stands here failed
  refine ⟨tokens.foldl Pointer.child "", ?_, ?_, fault.failsAt⟩
  · rw [place, Location.text_below, Pointer.foldl_child_eq]
    rfl
  · rw [Pointer.decode?_foldl_child]
    rfl

/-- The element that is too deep is left out of the payload under `/b~1c/$array`. -/
theorem compile_error_located_element :
    let value : Json := .object [("b/c", .object [("$array", .object [("count", .ofUInt64 2)])])]
    let e : DirectiveError := .tooDeep ⟨"/t", ["b/c", "$array", "element"]⟩ 1
    value.keysDistinct ∧ compile value "/t" 1 = .error e ∧
      e.place.text = "/t/b~1c/$array/element" ∧
      ∃ pointer, e.place.text = "/t" ++ pointer ∧ (Pointer.decode? pointer).isSome ∧
        FailsAt value pointer e := by
  intro value e
  have failed : compile value "/t" 1 = .error e := rfl
  exact ⟨rfl, failed, rfl, compile_error_located rfl failed⟩

end Template

end MockData
