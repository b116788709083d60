import MockData.Proofs.Numeric.Rounding
import MockData.Proofs.Template.Shapes
import MockData.Template.Compile

/-!
# The grammar of templates

`WellFormed` says at every depth which JSON values are templates. `compile_ok_iff` shows that these
and no others can be compiled. The readers pass over a directive's own key among the members of its
payload; the grammar has no such key, so a value with one is left out by `PayloadsFree`.
-/

namespace MockData

namespace JsonNumber

def IsProbability : JsonNumber → Prop
  | .int n _ => 0 ≤ n ∧ n ≤ 1
  | .float x => 0 ≤ x.units ∧ x.units ≤ Binary64.unitsPerOne

/-- Rounding takes no other number between zero and one. -/
theorem isProbability_iff (n : JsonNumber) :
    (∃ p, n.toBinary64? = some p ∧ p.isProbability) ↔ n.IsProbability := by
  cases n with
  | float x =>
    rw [IsProbability, ← Binary64.isProbability_iff]
    simp [toBinary64?]
  | int n fits =>
    unfold IsProbability toBinary64?
    constructor
    · rintro ⟨p, converted, bounded⟩
      dsimp only at converted
      split at converted
      · rename_i rounded
        cases converted
        exact (Binary64.ofInt_isProbability rounded).mp bounded
      · exact nomatch converted
    · rintro ⟨low, high⟩
      obtain ⟨p, rounded⟩ : ∃ p, Binary64.ofInt n = .finite p := by
        obtain rfl | rfl : n = 0 ∨ n = 1 := by omega
        · exact ⟨_, rfl⟩
        · exact ⟨_, rfl⟩
      refine ⟨p, ?_, ?_⟩
      · dsimp only
        rw [rounded]
      · exact (Binary64.ofInt_isProbability rounded).mpr ⟨low, high⟩

end JsonNumber

namespace Shape

def HasProbability (payload : List (String × Json)) : Prop :=
  Omitted (Json.find? payload "probability") ∨
    ∃ n : JsonNumber, Json.find? payload "probability" = some (.number n) ∧ n.IsProbability

theorem readsProbability_iff {payload : List (String × Json)} :
    (∃ p, ReadsProbability payload p) ↔ HasProbability payload := by
  constructor
  · rintro ⟨p, reads⟩
    cases reads with
    | omitted none => exact .inl none
    | @given v _ found number bounded =>
      cases v with
      | number n => exact .inr ⟨n, found, n.isProbability_iff.mp ⟨p, number, bounded⟩⟩
      | _ => exact nomatch number
  · rintro (none | ⟨n, found, bounded⟩)
    · exact ⟨_, .omitted none⟩
    · obtain ⟨p, number, bounded⟩ := n.isProbability_iff.mpr bounded
      exact ⟨p, .given found number bounded⟩

def templates : Shape → List Json
  | .faker _ _ => []
  | .array _ element => [element]
  | .oneOf _ options => options
  | .nullable _ value => [value]

end Shape

namespace Template

open Shape

def IsScalar : Json → Prop
  | .array _ => False
  | .object _ => False
  | _ => True

/-- The value is a template at a depth, and nothing in it is deeper than the limit. -/
inductive WellFormed (limit : Nat) : Nat → Json → Prop where
  | scalar {depth : Nat} {v : Json} (within : depth ≤ limit) (scalar : IsScalar v) :
      WellFormed limit depth v
  | array {depth : Nat} {items : List Json} (within : depth ≤ limit)
      (inside : ∀ item ∈ items, WellFormed limit (depth + 1) item) :
      WellFormed limit depth (.array items)
  | object {depth : Nat} {members : List (String × Json)} (within : depth ≤ limit)
      (plain : IsPlain members) (inside : ∀ m ∈ members, WellFormed limit (depth + 1) m.2) :
      WellFormed limit depth (.object members)
  | shortCall {depth : Nat} {members : List (String × Json)} {path : String}
      {args : Option (List (String × Json))} (within : depth ≤ limit)
      (directive : IsDirective .faker members (.string path))
      (alone : KeysWithin members ["$faker", "args"]) (nonempty : path ≠ "")
      (arguments : ReadsArgs (Json.find? members "args") args) :
      WellFormed limit depth (.object members)
  | longCall {depth : Nat} {members payload : List (String × Json)} {path : String}
      {args : Option (List (String × Json))} (within : depth ≤ limit)
      (directive : IsDirective .faker members (.object payload))
      (alone : KeysWithin members ["$faker"]) (keys : KeysWithin payload ["path", "args"])
      (found : Json.find? payload "path" = some (.string path)) (nonempty : path ≠ "")
      (arguments : ReadsArgs (Json.find? payload "args") args) :
      WellFormed limit depth (.object members)
  | repeated {depth : Nat} {members payload : List (String × Json)} {cardinality : Cardinality}
      (within : depth ≤ limit) (directive : IsDirective .array members (.object payload))
      (alone : KeysWithin members ["$array"])
      (keys : KeysWithin payload ["element", "count", "min", "max"])
      (bounds : ReadsCardinality payload cardinality)
      (element : WellFormed limit (depth + 1) (memberOrNull payload "element")) :
      WellFormed limit depth (.object members)
  | shortChoice {depth : Nat} {members : List (String × Json)} {options : List Json}
      (within : depth ≤ limit) (directive : IsDirective .oneOf members (.array options))
      (alone : KeysWithin members ["$oneOf"]) (nonempty : options ≠ [])
      (inside : ∀ option ∈ options, WellFormed limit (depth + 1) option) :
      WellFormed limit depth (.object members)
  | longChoice {depth : Nat} {members payload : List (String × Json)} {options : List Json}
      (within : depth ≤ limit) (directive : IsDirective .oneOf members (.object payload))
      (alone : KeysWithin members ["$oneOf"]) (keys : KeysWithin payload ["options"])
      (found : Json.find? payload "options" = some (.array options)) (nonempty : options ≠ [])
      (inside : ∀ option ∈ options, WellFormed limit (depth + 1) option) :
      WellFormed limit depth (.object members)
  | nullable {depth : Nat} {members payload : List (String × Json)} (within : depth ≤ limit)
      (directive : IsDirective .nullable members (.object payload))
      (alone : KeysWithin members ["$nullable"])
      (keys : KeysWithin payload ["value", "probability"]) (chance : HasProbability payload)
      (value : WellFormed limit (depth + 1) (memberOrNull payload "value")) :
      WellFormed limit depth (.object members)

theorem WellFormed.within {limit depth : Nat} {v : Json} (formed : WellFormed limit depth v) :
    depth ≤ limit := by
  cases formed <;> assumption

/-- An object is a template if it is plain or is read as a directive, and all that is inside it is
a template one level deeper. -/
theorem wellFormed_object_iff {limit depth : Nat} {members : List (String × Json)}
    (free : ∀ kind payload, IsDirective kind members (.object payload) →
      Json.hasKey payload kind.key = false) :
    WellFormed limit depth (.object members) ↔ depth ≤ limit ∧
      ((read? members = .ok none ∧ ∀ m ∈ members, WellFormed limit (depth + 1) m.2) ∨
        ∃ shape, read? members = .ok (some shape) ∧
          ∀ v ∈ shape.templates, WellFormed limit (depth + 1) v) := by
  constructor
  · intro formed
    refine ⟨formed.within, ?_⟩
    cases formed with
    | scalar within scalar => exact False.elim scalar
    | object within plain inside => exact .inl ⟨read?_none.mpr plain, inside⟩
    | shortCall within directive alone nonempty arguments =>
      have reads := Reads.faker (.short _ alone) nonempty arguments
      exact .inr ⟨_, read?_some.mpr ⟨_, _, directive, reads⟩, List.forall_mem_nil _⟩
    | longCall within directive alone keys found nonempty arguments =>
      have keys := (keysWithin_own (free _ _ directive)).mpr keys
      have reads := Reads.faker (.long alone keys found) nonempty arguments
      exact .inr ⟨_, read?_some.mpr ⟨_, _, directive, reads⟩, List.forall_mem_nil _⟩
    | repeated within directive alone keys bounds element =>
      have keys := (keysWithin_own (free _ _ directive)).mpr keys
      refine .inr ⟨_, read?_some.mpr ⟨_, _, directive, .array alone keys bounds⟩, ?_⟩
      exact List.forall_mem_singleton.mpr element
    | shortChoice within directive alone nonempty inside =>
      exact .inr ⟨_, read?_some.mpr ⟨_, _, directive, .oneOf alone (.short _) nonempty⟩, inside⟩
    | longChoice within directive alone keys found nonempty inside =>
      have keys := (keysWithin_own (free _ _ directive)).mpr keys
      have reads := Reads.oneOf alone (.long keys found) nonempty
      exact .inr ⟨_, read?_some.mpr ⟨_, _, directive, reads⟩, inside⟩
    | nullable within directive alone keys chance value =>
      have keys := (keysWithin_own (free _ _ directive)).mpr keys
      obtain ⟨p, probability⟩ := readsProbability_iff.mpr chance
      refine .inr ⟨_, read?_some.mpr ⟨_, _, directive, .nullable alone keys probability⟩, ?_⟩
      exact List.forall_mem_singleton.mpr value
  · rintro ⟨within, ⟨read, inside⟩ | ⟨shape, read, inside⟩⟩
    · exact .object within (read?_none.mp read) inside
    · obtain ⟨kind, payload, directive, reads⟩ := read?_some.mp read
      cases reads with
      | faker call nonempty arguments =>
        cases call with
        | short path alone => exact .shortCall within directive alone nonempty arguments
        | long alone keys found =>
          have keys := (keysWithin_own (free _ _ directive)).mp keys
          exact .longCall within directive alone keys found nonempty arguments
      | array alone keys bounds =>
        have keys := (keysWithin_own (free _ _ directive)).mp keys
        exact .repeated within directive alone keys bounds (inside _ (List.mem_singleton_self _))
      | oneOf alone listed nonempty =>
        cases listed with
        | short options => exact .shortChoice within directive alone nonempty inside
        | long keys found =>
          have keys := (keysWithin_own (free _ _ directive)).mp keys
          exact .longChoice within directive alone keys found nonempty inside
      | nullable alone keys probability =>
        have keys := (keysWithin_own (free _ _ directive)).mp keys
        have chance := readsProbability_iff.mp ⟨_, probability⟩
        exact .nullable within directive alone keys chance (inside _ (List.mem_singleton_self _))

/-! ### Compiling -/

section

variable {Good : Json → Prop} {compileAt : Location → Json → Except DirectiveError Template}

theorem compileItems_ok {items : List Json}
    (accepts : ∀ item ∈ items, ∀ place, (∃ t, compileAt place item = .ok t) ↔ Good item)
    (place : Location) (index : Nat) :
    (∃ ts, compileItems compileAt place index items = .ok ts) ↔ ∀ item ∈ items, Good item := by
  induction items generalizing index with
  | nil => exact iff_of_true ⟨[], rfl⟩ (List.forall_mem_nil _)
  | cons item rest ih =>
    have first := accepts item List.mem_cons_self (place.item index)
    have others := ih (fun v member => accepts v (List.mem_cons_of_mem _ member)) (index + 1)
    rw [List.forall_mem_cons, ← first, ← others]
    constructor
    · rintro ⟨_, compiled⟩
      obtain ⟨t, one, compiled⟩ := bind_ok.mp compiled
      obtain ⟨ts, more, _⟩ := bind_ok.mp compiled
      exact ⟨⟨t, one⟩, ts, more⟩
    · rintro ⟨⟨t, one⟩, ts, more⟩
      exact ⟨t :: ts, bind_ok.mpr ⟨t, one, bind_ok.mpr ⟨ts, more, rfl⟩⟩⟩

theorem compileMembers_ok {members : List (String × Json)}
    (accepts : ∀ m ∈ members, ∀ place, (∃ t, compileAt place m.2 = .ok t) ↔ Good m.2)
    (place : Location) :
    (∃ ts, compileMembers compileAt place members = .ok ts) ↔ ∀ m ∈ members, Good m.2 := by
  induction members with
  | nil => exact iff_of_true ⟨[], rfl⟩ (List.forall_mem_nil _)
  | cons m rest ih =>
    obtain ⟨key, v⟩ := m
    have first := accepts (key, v) List.mem_cons_self (place.child key)
    have others := ih fun m member => accepts m (List.mem_cons_of_mem _ member)
    rw [List.forall_mem_cons, ← first, ← others]
    constructor
    · rintro ⟨_, compiled⟩
      obtain ⟨t, one, compiled⟩ := bind_ok.mp compiled
      obtain ⟨ts, more, _⟩ := bind_ok.mp compiled
      exact ⟨⟨t, one⟩, ts, more⟩
    · rintro ⟨⟨t, one⟩, ts, more⟩
      exact ⟨(key, t) :: ts, bind_ok.mpr ⟨t, one, bind_ok.mpr ⟨ts, more, rfl⟩⟩⟩

theorem compileShape_ok {shape : Shape}
    (accepts : ∀ v ∈ shape.templates, ∀ place, (∃ t, compileAt place v = .ok t) ↔ Good v)
    (place : Location) :
    (∃ t, compileShape compileAt place shape = .ok t) ↔ ∀ v ∈ shape.templates, Good v := by
  cases shape with
  | faker path args => exact iff_of_true ⟨_, rfl⟩ (List.forall_mem_nil _)
  | array cardinality element =>
    have inside := accepts element (List.mem_singleton_self _)
    exact exists_bind_pure.trans ((inside _).trans List.forall_mem_singleton.symm)
  | oneOf inside options => exact exists_bind_pure.trans (compileItems_ok accepts _ 0)
  | nullable p value =>
    have inside := accepts value (List.mem_singleton_self _)
    exact exists_bind_pure.trans ((inside _).trans List.forall_mem_singleton.symm)

end

/-- The value stands somewhere in `root` where a template is expected. -/
inductive Inside (root : Json) : Json → Prop where
  | root : Inside root root
  | item {items : List Json} {item : Json} (inside : Inside root (.array items))
      (member : item ∈ items) : Inside root item
  | member {members : List (String × Json)} {m : String × Json}
      (inside : Inside root (.object members)) (plain : IsPlain members) (member : m ∈ members) :
      Inside root m.2
  | part {members : List (String × Json)} {shape : Shape} {v : Json}
      (inside : Inside root (.object members)) (read : read? members = .ok (some shape))
      (part : v ∈ shape.templates) : Inside root v

/-- No directive of a template has its own key among the members of its payload. -/
def PayloadsFree (root : Json) : Prop :=
  ∀ members kind payload, Inside root (.object members) →
    IsDirective kind members (.object payload) → Json.hasKey payload kind.key = false

theorem compileWithin_ok {root : Json} (free : PayloadsFree root) {limit levels depth : Nat}
    (left : depth + levels = limit + 1) {v : Json} (inside : Inside root v) (place : Location) :
    (∃ t, compileWithin limit levels place v = .ok t) ↔ WellFormed limit depth v := by
  -- The levels that are left and the depth so far always make up the limit.
  induction levels generalizing depth v place with
  | zero =>
    refine iff_of_false (fun ⟨t, compiled⟩ => (nomatch compiled)) fun formed => ?_
    have within := formed.within
    omega
  | succ levels ih =>
    have within : depth ≤ limit := by omega
    have next : depth + 1 + levels = limit + 1 := by omega
    cases v with
    | array items =>
      have all := compileItems_ok (fun _ member => ih next (.item inside member)) place 0
      refine exists_map.trans (all.trans ⟨.array within, fun formed => ?_⟩)
      cases formed with
      | array _ each => exact each
      | scalar _ scalar => exact False.elim scalar
    | object members =>
      rw [wellFormed_object_iff fun kind payload => free members kind payload inside]
      cases read : read? members with
      | error cause => simp [compileWithin, read]
      | ok option =>
        cases option with
        | none =>
          have plain := read?_none.mp read
          have each (m) (member : m ∈ members) := ih next (.member inside plain member)
          have all := compileMembers_ok each place
          simp [compileWithin, read, exists_map, all, within]
        | some shape =>
          have all := compileShape_ok (fun _ part => ih next (.part inside read part)) place
          simp [compileWithin, read, all, within]
    | _ => exact iff_of_true ⟨_, rfl⟩ (.scalar within trivial)

/-- The values that can be compiled are those that the grammar has at depth zero. -/
theorem compile_ok_iff {value : Json} (free : PayloadsFree value) (root : String) (limit : Nat) :
    (∃ t, compile value root limit = .ok t) ↔ WellFormed limit 0 value :=
  compileWithin_ok free (Nat.zero_add _) .root _

/-- A call that may be null has one level inside it. -/
theorem compile_ok_iff_nested :
    let call : Json := .object [("$faker", .object [("path", .string "person.name")])]
    let value : Json := .object [("$nullable", .object [("value", call)])]
    PayloadsFree value ∧ WellFormed 1 0 value ∧ ¬ WellFormed 0 0 value := by
  intro call value
  have places : ∀ v, Inside value v → v = value ∨ v = call := by
    intro v inside
    induction inside with
    | root => exact .inl rfl
    | item inside member ih => exact ih.elim nofun nofun
    | member inside plain member ih =>
      rcases ih with same | same
      · obtain rfl := Json.object.inj same
        exact nomatch plain .nullable
      · obtain rfl := Json.object.inj same
        exact nomatch plain .faker
    | part inside read part ih =>
      rcases ih with same | same
      · obtain rfl := Json.object.inj same
        obtain rfl := Option.some.inj (Except.ok.inj read)
        exact .inr (List.mem_singleton.mp part)
      · obtain rfl := Json.object.inj same
        obtain rfl := Option.some.inj (Except.ok.inj read)
        exact nomatch part
  have free : PayloadsFree value := by
    intro members kind payload inside directive
    rcases places _ inside with same | same
    · obtain rfl := Json.object.inj same
      obtain rfl := directive.only .nullable rfl
      obtain rfl := Json.object.inj (Option.some.inj directive.payload)
      rfl
    · obtain rfl := Json.object.inj same
      obtain rfl := directive.only .faker rfl
      obtain rfl := Json.object.inj (Option.some.inj directive.payload)
      rfl
  refine ⟨free, (compile_ok_iff free "" 1).mp ⟨_, rfl⟩, fun formed => ?_⟩
  obtain ⟨t, compiled⟩ := (compile_ok_iff free "" 0).mpr formed
  exact nomatch compiled

end Template

end MockData
