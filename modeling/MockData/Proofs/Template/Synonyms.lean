import MockData.Proofs.Template.Grammar
import MockData.Proofs.Template.Parts
import MockData.Proofs.Template.Spelling
import MockData.Proofs.Template.Unplaced

/-!
# Spellings that mean the same

A template in which any of the short spellings are made long compiles to the same template, apart from
places, or is refused for the same reason: `compile_respelled`. The places differ in the tokens that
lead to the options of a choice.
-/

namespace MockData

open Shape

/-! ### Places -/

/-- The second tokens are the first ones, with a token inserted between some choices and their
options. -/
inductive OptionsInserted : List String → List String → Prop where
  | nil : OptionsInserted [] []
  | token (token : String) {tokens others : List String} (later : OptionsInserted tokens others) :
      OptionsInserted (token :: tokens) (token :: others)
  | options {tokens others : List String} (later : OptionsInserted tokens others) :
      OptionsInserted (DirectiveKind.oneOf.key :: tokens)
        (DirectiveKind.oneOf.key :: "options" :: others)

namespace OptionsInserted

theorem refl (tokens : List String) : OptionsInserted tokens tokens := by
  induction tokens with
  | nil => exact .nil
  | cons token rest ih => exact .token token ih

theorem append {tokens others more rest : List String} (first : OptionsInserted tokens others)
    (later : OptionsInserted more rest) : OptionsInserted (tokens ++ more) (others ++ rest) := by
  induction first with
  | nil => exact later
  | token token _ ih => exact .token token ih
  | options _ ih => exact .options ih

end OptionsInserted

namespace Location

/-- The second place is below the same root, with tokens inserted on the way. -/
structure Shifted (l m : Location) : Prop where
  root : l.root = m.root
  tokens : OptionsInserted l.tokens m.tokens

theorem below_eq (l : Location) (tokens : List String) :
    l.below tokens = ⟨l.root, l.tokens ++ tokens⟩ := by
  induction tokens generalizing l with
  | nil => rw [List.append_nil]; rfl
  | cons token rest ih =>
    have step := ih (l.child token)
    rw [child, List.append_assoc] at step
    exact step

theorem Shifted.below {l m : Location} (shifted : l.Shifted m) {tokens others : List String}
    (inserted : OptionsInserted tokens others) : (l.below tokens).Shifted (m.below others) := by
  rw [below_eq, below_eq]
  exact ⟨shifted.root, shifted.tokens.append inserted⟩

end Location

structure DirectiveError.Shifted (e d : DirectiveError) : Prop where
  same : e.unplaced = d.unplaced
  place : e.place.Shifted d.place

/-! ### Levels -/

structure Part.Alike (p q : Part) : Prop where
  tokens : OptionsInserted p.tokens q.tokens
  value : Respelled .template p.value q.value

theorem Part.items_alike {above below : List String} (inserted : OptionsInserted above below)
    (index : Nat) {items others : List Json}
    (each : List.Forall₂ (Respelled .template) items others) :
    List.Forall₂ Part.Alike (Part.items above index items) (Part.items below index others) := by
  induction each generalizing index with
  | nil => exact .nil
  | cons first _ ih => exact .cons ⟨inserted.append (.refl _), first⟩ (ih (index + 1))

theorem Part.members_alike {members others : List (String × Json)}
    (respelled : Respelled.Members (fun _ => .template) members others) :
    List.Forall₂ Part.Alike (Part.members members) (Part.members others) := by
  induction respelled with
  | nil => exact .nil
  | @cons m n _ _ first _ ih =>
    obtain ⟨key, value⟩ := first
    refine .cons ⟨?_, value⟩ ih
    show OptionsInserted [m.1] [n.1]
    rw [key]
    exact .refl _

theorem Shape.Alike.parts {shape other : Shape} (alike : Alike shape other) :
    List.Forall₂ Part.Alike shape.parts other.parts := by
  cases alike with
  | faker path args => exact .nil
  | array cardinality inside => exact .cons ⟨.refl _, inside⟩ .nil
  | oneOf tokens inside => exact Part.items_alike (.refl _) 0 inside
  | moved inside => exact Part.items_alike (.options .nil) 0 inside
  | nullable probability inside => exact .cons ⟨.refl _, inside⟩ .nil

/-- What a respelled template is: a list, an object that is read alike, or the same value. -/
theorem Respelled.cases_template {v w : Json} (respelled : Respelled .template v w) :
    (∃ items others, v = .array items ∧ w = .array others ∧
      List.Forall₂ (Respelled .template) items others) ∨
    (∃ members others, v = .object members ∧ w = .object others ∧
      Corresponds Eq (Option.Rel Alike) (read? members) (read? others) ∧
      (IsPlain members → Members (fun _ => .template) members others)) ∨
    Template.IsScalar v ∧ v = w := by
  cases respelled with
  | same v =>
    cases v with
    | array items =>
      exact .inl ⟨items, items, rfl, rfl, List.forall₂_same.mpr fun v _ => .same _ v⟩
    | object members =>
      exact .inr (.inl ⟨members, members, rfl, rfl, read?_alike (members_same _ members),
        fun _ => members_same _ members⟩)
    | _ => exact .inr (.inr ⟨trivial, rfl⟩)
  | array length each => exact .inl ⟨_, _, rfl, rfl, forall₂_items length each⟩
  | @object _ members others keys each =>
    have node := inside_object keys each
    refine .inr (.inl ⟨members, others, rfl, rfl, read?_alike node, fun plain => ?_⟩)
    have template (key : String) : Role.template.member members key = .template := by
      rw [Role.member, if_pos (kindsOf_nil.mpr plain)]
    simpa only [Inside, template] using node
  | @call members inner path keys named inner_keys inner_named inner_args =>
    refine .inr (.inl ⟨_, _, rfl, rfl, ?_, fun plain => ?_⟩)
    · rw [read?_call keys named inner_keys inner_named inner_args]
      exact .of_same (fun _ => rfl) alike_read _
    · have absent := plain .faker
      rw [Json.hasKey, named] at absent
      cases absent
  | choice length each =>
    refine .inr (.inl ⟨_, _, rfl, rfl, read?_choice (forall₂_items length each), fun plain => ?_⟩)
    have absent := plain .oneOf
    cases absent

namespace Template

theorem map_unplaced_eq {ts us : List Template}
    (same : List.Forall₂ (fun t u => t.unplaced = u.unplaced) ts us) :
    ts.map unplaced = us.map unplaced := by
  induction same with
  | nil => rfl
  | cons first _ ih => rw [List.map_cons, List.map_cons, first, ih]

theorem unplaced_headD (t : Template) (ts : List Template) :
    (ts.headD t).unplaced = (ts.map unplaced).headD t.unplaced := by
  cases ts <;> rfl

/-- The two make the same of the same templates, apart from places. -/
def SameBuild (build other : List Template → Template) : Prop :=
  ∀ ts us : List Template, ts.map unplaced = us.map unplaced →
    (build ts).unplaced = (other us).unplaced

theorem sameBuild_shape {shape other : Shape} (alike : Alike shape other) (l m : Location) :
    SameBuild (shape.frame l) (other.frame m) := by
  intro ts us same
  cases alike with
  | faker path args => rfl
  | array cardinality inside =>
    simp only [Shape.frame, unplaced, unplaced_headD, same]
  | oneOf tokens inside => simp only [Shape.frame, unplaced, unplacedItems_eq, same]
  | moved inside => simp only [Shape.frame, unplaced, unplacedItems_eq, same]
  | nullable probability inside => simp only [Shape.frame, unplaced, unplaced_headD, same]

theorem sameBuild_members (keys : List String) :
    SameBuild (fun inside => .mapping (keys.zip inside)) fun inside => .mapping (keys.zip inside) := by
  intro ts us same
  simp only [unplaced, unplacedEntries_eq, ← List.zip_map_right, same]

/-- A level of a respelled template has the same frame around parts that are alike. -/
theorem frame_alike {v w : Json} (respelled : Respelled .template v w) {l m : Location}
    (shifted : l.Shifted m) :
    Corresponds DirectiveError.Shifted SameBuild (frame l v) (frame m w) ∧
      List.Forall₂ Part.Alike v.parts w.parts := by
  rcases respelled.cases_template with ⟨items, others, rfl, rfl, each⟩ |
    ⟨members, others, rfl, rfl, read, plain⟩ | ⟨scalar, rfl⟩
  · refine ⟨.ok fun ts us same => ?_, Part.items_alike (.refl _) 0 each⟩
    simp only [unplaced, unplacedItems_eq, same]
  · have template : read? members = .ok none →
        Respelled.Members (fun _ => .template) members others := fun none => plain (read?_none.mp none)
    dsimp only [frame, Json.parts]
    generalize read? members = one at read template ⊢
    generalize read? others = other at read ⊢
    cases read with
    | error same =>
      subst same
      exact ⟨.error ⟨rfl, shifted⟩, .nil⟩
    | ok read =>
      cases read with
      | none =>
        have each := template rfl
        refine ⟨.ok ?_, Part.members_alike each⟩
        rw [each.keys]
        exact sameBuild_members _
      | some alike => exact ⟨.ok (sameBuild_shape alike l m), alike.parts⟩
  · cases v with
    | array items => exact nomatch scalar
    | object members => exact nomatch scalar
    | _ => exact ⟨.ok fun _ _ _ => rfl, .nil⟩

theorem compileWithin_respelled (limit levels : Nat) {v w : Json}
    (respelled : Respelled .template v w) {l m : Location} (shifted : l.Shifted m) :
    Corresponds DirectiveError.Shifted (fun t u => t.unplaced = u.unplaced)
      (compileWithin limit levels l v) (compileWithin limit levels m w) := by
  -- Below a choice the places drift apart, so the induction is for any two that are shifted.
  induction levels generalizing v w l m with
  | zero =>
    rw [compileWithin, compileWithin]
    exact .error ⟨rfl, shifted⟩
  | succ levels ih =>
    obtain ⟨framed, parts⟩ := frame_alike respelled shifted
    rw [compileWithin_succ, compileWithin_succ]
    refine framed.bind fun build other builds => ?_
    have inside := Corresponds.mapM parts fun p q alike =>
      ih alike.value (shifted.below alike.tokens)
    exact inside.map fun ts us same => builds ts us (map_unplaced_eq same)

/-- Whatever short spellings are made long, the template is refused for the same reason, at a place
with tokens inserted, or it is the same but for places. Then it gives the same value and makes the same
progress, or fails in the same way. -/
theorem compile_respelled {v w : Json} (respelled : Respelled .template v w) (root : String)
    (limit : Nat) :
    (∃ e d, compile v root limit = .error e ∧ compile w root limit = .error d ∧
      e.unplaced = d.unplaced ∧ e.reason = d.reason ∧ e.place.root = d.place.root ∧
      OptionsInserted e.place.tokens d.place.tokens) ∨
    ∃ t u, compile v root limit = .ok t ∧ compile w root limit = .ok u ∧
      t.unplaced = u.unplaced ∧
      ∀ (σ : Type) [RandomSource σ] (registry : Registry (Provider σ)) (context : RecordContext)
        (p : Progress σ),
        ((t.resolve registry context).run p).2 = ((u.resolve registry context).run p).2 ∧
        ((∃ value, ((t.resolve registry context).run p).1 = .ok value ∧
            ((u.resolve registry context).run p).1 = .ok value) ∨
          ∃ e d, ((t.resolve registry context).run p).1 = .error e ∧
            ((u.resolve registry context).run p).1 = .error d ∧ e.unplaced = d.unplaced) := by
  have here : (Location.atRoot root).Shifted (.atRoot root) := ⟨rfl, .nil⟩
  have compiled := compileWithin_respelled limit (limit + 1) respelled here
  change Corresponds _ _ (compile v root limit) (compile w root limit) at compiled
  generalize compile v root limit = one at compiled ⊢
  generalize compile w root limit = other at compiled ⊢
  cases compiled with
  | @error e d shifted =>
    exact .inl ⟨e, d, rfl, rfl, shifted.same, DirectiveError.reason_eq shifted.same,
      shifted.place.root, shifted.place.tokens⟩
  | @ok t u same =>
    refine .inr ⟨t, u, rfl, rfl, same, fun σ _ registry context p => ?_⟩
    exact Resolution.run_of_unplaced_eq (resolve_eq_of_unplaced registry context same) p

/-- The outer choice and the first call are written out, and the choice inside is not. -/
theorem compile_respelled_nested :
    let args : Json := .object [("max", .ofUInt64 9)]
    let short : Json := .object [("$faker", .string "number.int"), ("args", args)]
    let long : Json := .object [("$faker", .object [("args", args), ("path", .string "number.int")])]
    let choice : Json := .object [("$oneOf", .array [short, .null])]
    let v : Json := .object [("$oneOf", .array [short, choice])]
    let w : Json := .object [("$oneOf", .object [("options", .array [long, choice])])]
    Respelled .template v w ∧
      (∃ t u, compile v "/t" 2 = .ok t ∧ compile w "/t" 2 = .ok u ∧ t.unplaced = u.unplaced) ∧
      ∃ e d, compile v "/t" 1 = .error e ∧ compile w "/t" 1 = .error d ∧ e.reason = d.reason ∧
        OptionsInserted e.place.tokens d.place.tokens ∧ e.place ≠ d.place := by
  intro args short long choice v w
  have called : Respelled .template short long :=
    .call (by simp [KeysWithin, DirectiveKind.key]) rfl (by simp [KeysWithin]) rfl rfl
  have respelled : Respelled .template v w := by
    refine .choice rfl fun v w pair => ?_
    rcases List.mem_cons.mp pair with same | rest
    · cases same
      exact called
    · cases List.mem_singleton.mp rest
      exact .same _ choice
  refine ⟨respelled, ?_, ?_⟩
  · rcases compile_respelled respelled "/t" 2 with ⟨e, d, failed, _⟩ | ⟨t, u, here, there, same, _⟩
    · exact nomatch failed
    · exact ⟨t, u, here, there, same⟩
  · rcases compile_respelled respelled "/t" 1 with
      ⟨e, d, here, there, _, reason, _, inserted⟩ | ⟨t, u, compiled, _⟩
    · refine ⟨e, d, here, there, reason, inserted, ?_⟩
      cases here
      cases there
      decide
    · exact nomatch compiled

end Template

end MockData
