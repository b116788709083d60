import MockData.Proofs.Random.Draws
import MockData.Proofs.Template.Resolution

/-!
# Resolved values conform to their template

`Conforms` says by recursion on a template which values may come out of it. `resolve_conforms`
shows that nothing else does, from any source and after any calls.
-/

namespace MockData

def Cardinality.Admits : Cardinality → Nat → Prop
  | .fixed count, n => n = count.toNat
  | .range min max, n => min.toNat ≤ n ∧ n ≤ max.toNat

namespace Template

section

variable {σ : Type} (registry : Registry (Provider σ)) (context : RecordContext)

mutual
/-- The value may come out of the template. The null branch of a nullable value needs a probability
above zero, and the other branch one below one. -/
def Conforms : Template → Json → Prop
  | .literal value, v => v = value
  | .sequence items, v => ∃ vs, v = .array vs ∧ ConformsItems items vs
  | .mapping entries, v => ∃ members, v = .object members ∧ ConformsEntries entries members
  | .faker _ path args, v =>
    ∃ provider, registry.resolve path = .ok provider ∧
      ∃ source, (provider context (args.map .object) source).1 = .ok v
  | .array _ cardinality element, v =>
    ∃ vs, v = .array vs ∧ cardinality.Admits vs.length ∧ ∀ w ∈ vs, Conforms element w
  | .oneOf _ options, v => ConformsOption options v
  | .nullable _ probability value, v =>
    (v = .null ∧ Binary64.zero.lt probability) ∨ (Conforms value v ∧ probability.lt .one)
def ConformsItems : List Template → List Json → Prop
  | [], vs => vs = []
  | t :: rest, vs => ∃ w ws, vs = w :: ws ∧ Conforms t w ∧ ConformsItems rest ws
/-- The same keys in the same order, each with a conforming value. -/
def ConformsEntries : List (String × Template) → List (String × Json) → Prop
  | [], members => members = []
  | (key, t) :: rest, members =>
    ∃ w ws, members = (key, w) :: ws ∧ Conforms t w ∧ ConformsEntries rest ws
def ConformsOption : List Template → Json → Prop
  | [], _ => False
  | t :: rest, v => Conforms t v ∨ ConformsOption rest v
end

end

section

variable {σ : Type} [RandomSource σ]

open Resolution

/-- A drawn number of elements is admitted; reversed bounds admit none. -/
theorem ensures_drawCardinality (place : Location) (cardinality : Cardinality) :
    Ensures (σ := σ) (drawCardinality place cardinality) cardinality.Admits
      (· = .emptyRange place) := by
  cases cardinality with
  | fixed count => exact Ensures.of_pure rfl
  | range min max =>
    rw [drawCardinality]
    split
    · exact Ensures.of_throw rfl
    · rename_i ordered
      refine (Ensures.of_draw _).weaken ?_ fun _ e => e
      rintro n ⟨s, rfl⟩
      exact Draw.between64_bounds (Nat.le_of_not_lt ordered) s

variable (registry : Registry (Provider σ)) (context : RecordContext)

omit [RandomSource σ] in
theorem call_conforms (place : Location) (path : String) (args : Option (List (String × Json))) :
    Ensures (call registry context place path args)
      (Conforms registry context (.faker place path args)) fun _ => True := by
  refine ensures_call (fun _ _ => trivial) ?_ fun _ _ _ _ _ => trivial
  intro provider found s v given
  exact ⟨provider, Registry.lookup_ok.mp found, s, given⟩

mutual
theorem conforms_of_resolve : ∀ t : Template,
    Ensures (t.resolve registry context) (Conforms registry context t) fun _ => True
  | .literal value => by
    rw [resolve]
    exact Ensures.of_pure rfl
  | .sequence items => by
    rw [resolve]
    exact Ensures.bind (conforms_of_resolveItems items) fun vs conform =>
      Ensures.of_pure ⟨vs, rfl, conform⟩
  | .mapping entries => by
    rw [resolve]
    exact Ensures.bind (conforms_of_resolveEntries entries) fun members conform =>
      Ensures.of_pure ⟨members, rfl, conform⟩
  | .faker place path args => by
    rw [resolve]
    exact call_conforms registry context place path args
  | .array place cardinality element => by
    rw [resolve]
    refine Ensures.bind ((ensures_drawCardinality place cardinality).weaken (fun _ h => h)
      fun _ _ => trivial) ?_
    intro n admitted
    refine Ensures.bind (Ensures.of_replicate (conforms_of_resolve element) n) ?_
    rintro vs ⟨rfl, conform⟩
    exact Ensures.of_pure ⟨vs, rfl, admitted, conform⟩
  | .oneOf place options => by
    rw [resolve]
    split
    · exact Ensures.of_throw trivial
    · exact Ensures.bind (Ensures.of_draw _) fun i _ => conforms_of_resolveOption place options i
  | .nullable place probability value => by
    rw [resolve]
    refine Ensures.bind (Ensures.of_draw _) ?_
    rintro null ⟨s, drawn⟩
    have possible := Draw.chance_possible probability s
    rw [drawn] at possible
    split
    · rename_i happened
      exact Ensures.of_pure (.inl ⟨rfl, possible.1 happened⟩)
    · rename_i failed
      exact (conforms_of_resolve value).weaken
        (fun v conform => .inr ⟨conform, possible.2 (eq_false_of_ne_true failed)⟩)
        fun _ e => e
theorem conforms_of_resolveItems : ∀ items : List Template,
    Ensures (resolveItems registry context items) (ConformsItems registry context items)
      fun _ => True
  | [] => by
    rw [resolveItems]
    exact Ensures.of_pure rfl
  | t :: rest => by
    rw [resolveItems]
    exact Ensures.bind (conforms_of_resolve t) fun w first =>
      Ensures.bind (conforms_of_resolveItems rest) fun ws others =>
        Ensures.of_pure ⟨w, ws, rfl, first, others⟩
theorem conforms_of_resolveEntries : ∀ entries : List (String × Template),
    Ensures (resolveEntries registry context entries) (ConformsEntries registry context entries)
      fun _ => True
  | [] => by
    rw [resolveEntries]
    exact Ensures.of_pure rfl
  | (key, t) :: rest => by
    rw [resolveEntries]
    exact Ensures.bind (conforms_of_resolve t) fun w first =>
      Ensures.bind (conforms_of_resolveEntries rest) fun ws others =>
        Ensures.of_pure ⟨w, ws, rfl, first, others⟩
theorem conforms_of_resolveOption (place : Location) : ∀ (options : List Template) (i : Nat),
    Ensures (resolveOption registry context place options i)
      (ConformsOption registry context options) fun _ => True
  | [], i => by
    rw [resolveOption]
    exact Ensures.of_throw trivial
  | t :: rest, 0 => by
    rw [resolveOption]
    exact (conforms_of_resolve t).weaken (fun _ conform => .inl conform) fun _ e => e
  | t :: rest, i + 1 => by
    rw [resolveOption]
    exact (conforms_of_resolveOption place rest i).weaken (fun _ conform => .inr conform)
      fun _ e => e
end

/-- A value that a template resolves to conforms to it. -/
theorem resolve_conforms (t : Template) (p : Progress σ) (v : Json)
    (resolved : ((t.resolve registry context).run p).1 = .ok v) :
    Conforms registry context t v := by
  have outcome := conforms_of_resolve registry context t p
  rwa [resolved] at outcome

end

theorem resolve_conforms_choices :
    let registry : Registry (Provider Script) :=
      Registry.empty.register "record.index" fun context _ => return .ok (.ofUInt64 context.index)
    let context : RecordContext := ⟨7, .enUS, .midnight 0⟩
    let place := Location.atRoot ""
    let t : Template := .mapping
      [("list", .array place (.range 1 2)
        (.oneOf place [.faker place "record.index" none, .literal .null])),
       ("name", .nullable place .half (.literal (.string "x")))]
    let v : Json := .object [("list", .array [.ofUInt64 7]), ("name", .null)]
    ((t.resolve registry context).run ⟨Script.cycle 0 #[], []⟩).1 = .ok v ∧
      Conforms registry context t v := by
  refine ⟨?resolved, resolve_conforms _ _ _ ⟨Script.cycle 0 #[], []⟩ _ ?resolved⟩
  rfl

end Template

end MockData
