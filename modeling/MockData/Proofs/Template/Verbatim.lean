import MockData.Proofs.Json.Structure
import MockData.Proofs.Template.Shapes
import MockData.Template.Compile
import MockData.Template.Resolve

/-!
# Templates without directives

A value without a directive key is a template of itself (`resolve_directiveFree`): it is compiled by
every limit that reaches its nesting, and resolving it gives the value back without a draw.
-/

namespace MockData

namespace Json

mutual
def directiveFree : Json → Bool
  | .array items => directiveFreeItems items
  | .object members => (Shape.kindsOf members).isEmpty && directiveFreeMembers members
  | _ => true
def directiveFreeItems : List Json → Bool
  | [] => true
  | item :: rest => directiveFree item && directiveFreeItems rest
def directiveFreeMembers : List (String × Json) → Bool
  | [] => true
  | (_, value) :: rest => directiveFree value && directiveFreeMembers rest
end

mutual
/-- How many levels of arrays and objects are between a value and the deepest one inside it. -/
def nesting : Json → Nat
  | .array items => nestingItems items
  | .object members => nestingMembers members
  | _ => 0
def nestingItems : List Json → Nat
  | [] => 0
  | item :: rest => max (nesting item + 1) (nestingItems rest)
def nestingMembers : List (String × Json) → Nat
  | [] => 0
  | (_, value) :: rest => max (nesting value + 1) (nestingMembers rest)
end

end Json

namespace Template

mutual
/-- The template that stands for a value itself. -/
def verbatim : Json → Template
  | .array items => .sequence (verbatimItems items)
  | .object members => .mapping (verbatimMembers members)
  | scalar => .literal scalar
def verbatimItems : List Json → List Template
  | [] => []
  | item :: rest => verbatim item :: verbatimItems rest
def verbatimMembers : List (String × Json) → List (String × Template)
  | [] => []
  | (key, value) :: rest => (key, verbatim value) :: verbatimMembers rest
end

/-! ### Compiling -/

section

variable {compileAt : Location → Json → Except DirectiveError Template} {levels : Nat}

theorem compileItems_verbatim {items : List Json}
    (each : ∀ item ∈ items, item.directiveFree → item.nesting < levels →
      ∀ place, compileAt place item = .ok (verbatim item))
    (free : Json.directiveFreeItems items) (shallow : Json.nestingItems items ≤ levels)
    (place : Location) (index : Nat) :
    compileItems compileAt place index items = .ok (verbatimItems items) := by
  induction items generalizing index with
  | nil => rfl
  | cons item rest ih =>
    obtain ⟨first, others⟩ := List.forall_mem_cons.mp each
    rw [Json.directiveFreeItems, Bool.and_eq_true] at free
    rw [Json.nestingItems, Nat.max_le] at shallow
    rw [compileItems, first free.1 shallow.1, ih others free.2 shallow.2]
    rfl

theorem compileMembers_verbatim {members : List (String × Json)}
    (each : ∀ m ∈ members, m.2.directiveFree → m.2.nesting < levels →
      ∀ place, compileAt place m.2 = .ok (verbatim m.2))
    (free : Json.directiveFreeMembers members) (shallow : Json.nestingMembers members ≤ levels)
    (place : Location) :
    compileMembers compileAt place members = .ok (verbatimMembers members) := by
  induction members with
  | nil => rfl
  | cons m rest ih =>
    obtain ⟨first, others⟩ := List.forall_mem_cons.mp each
    rw [Json.directiveFreeMembers, Bool.and_eq_true] at free
    rw [Json.nestingMembers, Nat.max_le] at shallow
    rw [compileMembers, first free.1 shallow.1, ih others free.2 shallow.2]
    rfl

end

theorem compileWithin_verbatim {v : Json} (free : v.directiveFree) {limit levels : Nat}
    (shallow : v.nesting < levels) (place : Location) :
    compileWithin limit levels place v = .ok (verbatim v) := by
  induction v using Json.nested generalizing levels place with
  | array items inside =>
    obtain ⟨levels, rfl⟩ := Nat.exists_eq_add_one_of_ne_zero (Nat.ne_zero_of_lt shallow)
    have within : Json.nestingItems items ≤ levels := Nat.le_of_lt_succ shallow
    have all := compileItems_verbatim (fun item member free => inside item member free) free within
    rw [compileWithin, all]
    rfl
  | object members inside =>
    obtain ⟨levels, rfl⟩ := Nat.exists_eq_add_one_of_ne_zero (Nat.ne_zero_of_lt shallow)
    have within : Json.nestingMembers members ≤ levels := Nat.le_of_lt_succ shallow
    rw [Json.directiveFree, Bool.and_eq_true, List.isEmpty_iff] at free
    have plain : Shape.read? members = .ok none :=
      Shape.read?_none.mpr (Shape.kindsOf_nil.mp free.1)
    have all := compileMembers_verbatim (fun m member free => inside m member free) free.2 within
    rw [compileWithin, plain]
    dsimp only
    rw [all]
    rfl
  | _ =>
    obtain ⟨levels, rfl⟩ := Nat.exists_eq_add_one_of_ne_zero (Nat.ne_zero_of_lt shallow)
    rfl

/-! ### Resolving -/

mutual
theorem sites_verbatim : ∀ v : Json, (verbatim v).sites = []
  | .array items => sitesItems_verbatim items
  | .object members => sitesEntries_verbatim members
  | .null => rfl
  | .bool _ => rfl
  | .number _ => rfl
  | .string _ => rfl
theorem sitesItems_verbatim : ∀ items : List Json, sitesItems (verbatimItems items) = []
  | [] => rfl
  | item :: rest => by
    rw [verbatimItems, sitesItems, sites_verbatim item, sitesItems_verbatim rest]
    rfl
theorem sitesEntries_verbatim : ∀ members : List (String × Json),
    sitesEntries (verbatimMembers members) = []
  | [] => rfl
  | (_, value) :: rest => by
    rw [verbatimMembers, sitesEntries, sites_verbatim value, sitesEntries_verbatim rest]
    rfl
end

section

variable {σ : Type} [RandomSource σ] (registry : Registry (Provider σ)) (context : RecordContext)

mutual
theorem resolve_verbatim : ∀ v : Json, (verbatim v).resolve registry context = pure v
  | .array items => by
    rw [verbatim, resolve, resolveItems_verbatim items, pure_bind]
  | .object members => by
    rw [verbatim, resolve, resolveEntries_verbatim members, pure_bind]
  | .null => rfl
  | .bool _ => rfl
  | .number _ => rfl
  | .string _ => rfl
theorem resolveItems_verbatim : ∀ items : List Json,
    resolveItems registry context (verbatimItems items) = pure items
  | [] => rfl
  | item :: rest => by
    rw [verbatimItems, resolveItems, resolve_verbatim item, pure_bind,
      resolveItems_verbatim rest, pure_bind]
theorem resolveEntries_verbatim : ∀ members : List (String × Json),
    resolveEntries registry context (verbatimMembers members) = pure members
  | [] => rfl
  | (key, value) :: rest => by
    rw [verbatimMembers, resolveEntries, resolve_verbatim value, pure_bind,
      resolveEntries_verbatim rest, pure_bind]
end

end

/-- Neither the random source nor the counts of calls are touched. -/
theorem resolve_directiveFree {v : Json} (free : v.directiveFree) {limit : Nat}
    (shallow : v.nesting ≤ limit) (root : String) :
    ∃ t, compile v root limit = .ok t ∧ t.sites = [] ∧
      ∀ {σ : Type} [RandomSource σ] (registry : Registry (Provider σ)) (context : RecordContext)
        (p : Progress σ), (t.resolve registry context).run p = (.ok v, p) := by
  have compiled : compile v root limit = .ok (verbatim v) :=
    compileWithin_verbatim free (Nat.lt_succ_of_le shallow) _
  refine ⟨verbatim v, compiled, sites_verbatim v, fun registry context p => ?_⟩
  rw [resolve_verbatim]
  rfl

/-- The whole number one is not the number `1.0`, and the members keep their order. -/
theorem resolve_directiveFree_numbers :
    let v : Json := .object [("b", .array [.ofUInt64 1, .number (.float .one)]), ("a", .object [])]
    v.directiveFree ∧ v.nesting = 2 ∧ ∃ t, compile v "/template" 2 = .ok t ∧
      ∀ p : Progress Script,
        (t.resolve Registry.empty ⟨0, .enUS, .midnight 0⟩).run p = (.ok v, p) := by
  intro v
  have free : v.directiveFree := rfl
  have shallow : v.nesting ≤ 2 := Nat.le_refl 2
  obtain ⟨t, compiled, _, resolved⟩ := resolve_directiveFree free shallow "/template"
  exact ⟨free, rfl, t, compiled, fun p => resolved _ _ p⟩

end Template

end MockData
