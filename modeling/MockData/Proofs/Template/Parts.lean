import MockData.Proofs.Json.Pointer
import MockData.Proofs.Template.Sources
import MockData.Template.Compile

/-!
# The templates inside a template

One level of a template is its frame, which holds the templates one level deeper.
`compileWithin_succ` takes the compilation apart into the two.
-/

namespace MockData

namespace Location

def below (place : Location) (tokens : List String) : Location := tokens.foldl child place

theorem below_append (place : Location) (tokens more : List String) :
    place.below (tokens ++ more) = (place.below tokens).below more :=
  List.foldl_append

theorem text_below (place : Location) (tokens : List String) :
    (place.below tokens).text = tokens.foldl Pointer.child place.text := by
  unfold below
  induction tokens generalizing place with
  | nil => rfl
  | cons token rest ih =>
    have step : (place.child token).text = Pointer.child place.text token := by
      simp [text, child]
    rw [List.foldl_cons, ih, step]
    rfl

end Location

/-- A template one level below another: the tokens on the way to it, and the value there or the null
that stands for a member left out. -/
structure Part where
  tokens : List String
  value : Json

namespace Part

def items (above : List String) (index : Nat) : List Json → List Part
  | [] => []
  | item :: rest => ⟨above ++ [toString index], item⟩ :: items above (index + 1) rest

def members (list : List (String × Json)) : List Part := list.map fun m => ⟨[m.1], m.2⟩

theorem mem_items {above : List String} {index : Nat} {list : List Json} {part : Part} :
    part ∈ items above index list ↔
      ∃ i, list[i]? = some part.value ∧ part.tokens = above ++ [toString (index + i)] := by
  induction list generalizing index with
  | nil => simp [items]
  | cons item rest ih =>
    rw [items, List.mem_cons, ih]
    constructor
    · rintro (rfl | ⟨i, found, tokens⟩)
      · exact ⟨0, rfl, rfl⟩
      · refine ⟨i + 1, found, ?_⟩
        rw [tokens, show index + 1 + i = index + (i + 1) by omega]
    · rintro ⟨i, found, tokens⟩
      cases i with
      | zero =>
        left
        cases part
        obtain rfl := Option.some.inj found
        obtain rfl := tokens
        rfl
      | succ i =>
        right
        refine ⟨i, found, ?_⟩
        rw [tokens, show index + 1 + i = index + (i + 1) by omega]

theorem value_mem_of_mem_items {above : List String} {index : Nat} {list : List Json} {part : Part}
    (mem : part ∈ items above index list) : part.value ∈ list := by
  obtain ⟨i, found, _⟩ := mem_items.mp mem
  exact List.mem_of_getElem? found

end Part

namespace Shape

def parts : Shape → List Part
  | .faker _ _ => []
  | .array _ element => [⟨[DirectiveKind.array.key, "element"], element⟩]
  | .oneOf inside options => Part.items (DirectiveKind.oneOf.key :: inside) 0 options
  | .nullable _ value => [⟨[DirectiveKind.nullable.key, "value"], value⟩]

/-- The directive at a place around the templates inside. -/
def frame (place : Location) : Shape → List Template → Template
  | .faker path args, _ => .faker place path args
  | .array cardinality _, inside => .array place cardinality (inside.headD (.literal .null))
  | .oneOf _ _, inside => .oneOf place inside
  | .nullable probability _, inside =>
    .nullable place probability (inside.headD (.literal .null))

end Shape

namespace Json

/-- The templates one level below a value; there is none in an object that cannot be read. -/
def parts : Json → List Part
  | .array items => Part.items [] 0 items
  | .object members =>
    match Shape.read? members with
    | .error _ => []
    | .ok none => Part.members members
    | .ok (some shape) => shape.parts
  | _ => []

end Json

/-! ### Sizes -/

namespace Shape

variable {members inner : List (String × Json)} {kind : DirectiveKind} {payload : Json}
  {shape : Shape} {part : Part}

theorem sizeOf_member_lt {m : String × Json} (member : m ∈ members) :
    sizeOf m.2 < sizeOf members := by
  have smaller := List.sizeOf_lt_of_mem member
  obtain ⟨key, v⟩ := m
  simp only [Prod.mk.sizeOf_spec] at smaller
  dsimp only
  omega

theorem sizeOf_memberOrNull_lt (key : String) :
    sizeOf (memberOrNull members key) < sizeOf (Json.object members) := by
  unfold memberOrNull
  cases found : Json.find? members key with
  | none =>
    simp only [Option.getD_none, Json.null.sizeOf_spec, Json.object.sizeOf_spec]
    cases members with
    | nil => simp
    | cons m rest =>
      rw [List.cons.sizeOf_spec]
      omega
  | some value =>
    have smaller := sizeOf_member_lt (Json.mem_of_find? found)
    simp only [Option.getD_some, Json.object.sizeOf_spec]
    dsimp only at smaller
    omega

theorem Reads.sizeOf_lt (reads : Reads members kind payload shape) (mem : part ∈ shape.parts) :
    sizeOf part.value < sizeOf payload := by
  cases reads with
  | faker _ _ _ => exact nomatch mem
  | array _ _ _ =>
    obtain rfl := List.mem_singleton.mp mem
    exact sizeOf_memberOrNull_lt _
  | oneOf _ listed _ =>
    have smaller := List.sizeOf_lt_of_mem (Part.value_mem_of_mem_items mem)
    cases listed with
    | short options =>
      simp only [Json.array.sizeOf_spec]
      omega
    | @long inner options _ found =>
      have holder := sizeOf_member_lt (Json.mem_of_find? found)
      simp only [Json.object.sizeOf_spec, Json.array.sizeOf_spec] at holder ⊢
      omega
  | nullable _ _ _ =>
    obtain rfl := List.mem_singleton.mp mem
    exact sizeOf_memberOrNull_lt _

end Shape

namespace Json

open Shape

theorem parts_plain {members : List (String × Json)} (plain : IsPlain members) :
    (Json.object members).parts = Part.members members := by
  rw [parts, read?_none.mpr plain]

theorem parts_directive {members : List (String × Json)} {shape : Shape}
    (read : read? members = .ok (some shape)) : (Json.object members).parts = shape.parts := by
  rw [parts, read]

theorem mem_parts_object {members : List (String × Json)} {part : Part}
    (mem : part ∈ (Json.object members).parts) :
    (IsPlain members ∧ part ∈ Part.members members) ∨
      ∃ kind payload shape, IsDirective kind members payload ∧
        Reads members kind payload shape ∧ part ∈ shape.parts := by
  cases read : read? members with
  | error cause =>
    rw [parts, read] at mem
    exact nomatch mem
  | ok option =>
    cases option with
    | none =>
      have plain := read?_none.mp read
      rw [parts_plain plain] at mem
      exact .inl ⟨plain, mem⟩
    | some shape =>
      obtain ⟨kind, payload, directive, reads⟩ := read?_some.mp read
      rw [parts_directive read] at mem
      exact .inr ⟨kind, payload, shape, directive, reads, mem⟩

theorem sizeOf_lt_of_mem_parts {v : Json} {part : Part} (mem : part ∈ v.parts) :
    sizeOf part.value < sizeOf v := by
  cases v with
  | array items =>
    have smaller := List.sizeOf_lt_of_mem (Part.value_mem_of_mem_items mem)
    simp only [Json.array.sizeOf_spec]
    omega
  | object members =>
    rcases mem_parts_object mem with ⟨_, mem⟩ | ⟨kind, payload, shape, directive, reads, mem⟩
    · obtain ⟨m, member, rfl⟩ := List.mem_map.mp mem
      have smaller := sizeOf_member_lt member
      simp only [Json.object.sizeOf_spec]
      omega
    · have holder := sizeOf_member_lt (Json.mem_of_find? directive.payload)
      have smaller := reads.sizeOf_lt mem
      simp only [Json.object.sizeOf_spec] at holder ⊢
      omega
  | _ => exact nomatch mem

end Json

/-! ### One level of a template -/

namespace Template

open Shape

def children : Template → List Template
  | .literal _ => []
  | .sequence items => items
  | .mapping entries => entries.map Prod.snd
  | .faker _ _ _ => []
  | .array _ _ element => [element]
  | .oneOf _ options => options
  | .nullable _ _ value => [value]

/-- What is made of a value around the templates inside. -/
def frame (place : Location) : Json → Except DirectiveError (List Template → Template)
  | .array _ => .ok .sequence
  | .object members =>
    match read? members with
    | .error cause => .error (.malformed place cause)
    | .ok none => .ok fun inside => .mapping ((members.map Prod.fst).zip inside)
    | .ok (some shape) => .ok (shape.frame place)
  | scalar => .ok fun _ => .literal scalar

section

variable {place : Location} {v : Json}

theorem frame_error {e : DirectiveError} (failed : frame place v = .error e) :
    ∃ members cause, v = .object members ∧ read? members = .error cause ∧
      e = .malformed place cause := by
  cases v with
  | object members =>
    unfold frame at failed
    dsimp only at failed
    split at failed
    · rename_i cause read
      cases failed
      exact ⟨members, cause, rfl, read, rfl⟩
    · exact nomatch failed
    · exact nomatch failed
  | _ => exact nomatch failed

theorem children_shape_frame {shape : Shape} {inside : List Template}
    (all : inside.length = shape.parts.length) : (shape.frame place inside).children = inside := by
  cases shape with
  | faker path args => exact (List.eq_nil_of_length_eq_zero all).symm
  | array cardinality element =>
    obtain ⟨t, rfl⟩ := List.length_eq_one_iff.mp all
    rfl
  | oneOf tokens options => rfl
  | nullable probability value =>
    obtain ⟨t, rfl⟩ := List.length_eq_one_iff.mp all
    rfl

theorem children_frame {build : List Template → Template} (framed : frame place v = .ok build)
    {inside : List Template} (all : inside.length = v.parts.length) :
    (build inside).children = inside := by
  cases v with
  | array items =>
    cases framed
    rfl
  | object members =>
    cases read : read? members with
    | error cause => simp [frame, read] at framed
    | ok option =>
      simp only [frame, read] at framed
      simp only [Json.parts, read] at all
      cases option with
      | none =>
        cases framed
        have keys : inside.length ≤ (members.map Prod.fst).length := by
          rw [all]
          simp [Part.members]
        exact List.map_snd_zip keys
      | some shape =>
        cases framed
        exact children_shape_frame all
  | _ =>
    cases framed
    exact (List.eq_nil_of_length_eq_zero all).symm

end

section

variable (compileAt : Location → Json → Except DirectiveError Template)

theorem compileItems_eq (place : Location) (above : List String) (index : Nat)
    (items : List Json) :
    compileItems compileAt (place.below above) index items =
      (Part.items above index items).mapM fun part =>
        compileAt (place.below part.tokens) part.value := by
  induction items generalizing index with
  | nil => rfl
  | cons item rest ih =>
    rw [compileItems, Part.items, List.mapM_cons, ih, Location.below_append]
    rfl

theorem compileMembers_eq (place : Location) (members : List (String × Json)) :
    compileMembers compileAt place members =
      (fun inside => (members.map Prod.fst).zip inside) <$> (Part.members members).mapM fun part =>
        compileAt (place.below part.tokens) part.value := by
  induction members with
  | nil => rfl
  | cons m rest ih =>
    obtain ⟨key, v⟩ := m
    simp [compileMembers, ih, Part.members, Location.below]

theorem compileShape_eq (place : Location) (shape : Shape) :
    compileShape compileAt place shape = shape.frame place <$> shape.parts.mapM fun part =>
      compileAt (place.below part.tokens) part.value := by
  cases shape with
  | faker path args => rfl
  | array cardinality element =>
    simp [compileShape, parts, Location.below]
    rfl
  | oneOf inside options =>
    rw [compileShape, parts, ← compileItems_eq, Location.below, List.foldl_cons]
    simp only [bind_pure_comp]
    rfl
  | nullable probability value =>
    simp [compileShape, parts, Location.below]
    rfl

end

/-- A level of a template is read first and all that is inside it is compiled next. -/
theorem compileWithin_succ (limit levels : Nat) (place : Location) (v : Json) :
    compileWithin limit (levels + 1) place v =
      frame place v >>= fun build =>
        build <$> v.parts.mapM fun part =>
          compileWithin limit levels (place.below part.tokens) part.value := by
  conv => lhs; unfold compileWithin
  cases v with
  | array items => exact congrArg (sequence <$> ·) (compileItems_eq _ place [] 0 items)
  | object members =>
    dsimp only
    cases read : read? members with
    | error cause =>
      rw [frame, read]
      rfl
    | ok option =>
      cases option with
      | none =>
        rw [frame, read, Json.parts, read]
        dsimp only
        rw [compileMembers_eq, Functor.map_map]
        rfl
      | some shape =>
        rw [frame, read, Json.parts, read]
        exact compileShape_eq _ place shape
  | _ => rfl

/-- A template is its frame around what the parts of its value are compiled to. -/
theorem compileWithin_succ_ok {limit levels : Nat} {place : Location} {v : Json} {t : Template}
    (compiled : compileWithin limit (levels + 1) place v = .ok t) :
    ∃ build, frame place v = .ok build ∧ build t.children = t ∧
      List.Forall₂ (fun part c => compileWithin limit levels (place.below part.tokens) part.value =
        .ok c) v.parts t.children := by
  rw [compileWithin_succ] at compiled
  obtain ⟨build, framed, compiled⟩ := bind_ok.mp compiled
  obtain ⟨ts, all, rfl⟩ := map_ok.mp compiled
  have each := mapM_ok.mp all
  have inside := children_frame framed each.length_eq.symm
  refine ⟨build, framed, congrArg build inside, ?_⟩
  rwa [inside]

end Template

end MockData
