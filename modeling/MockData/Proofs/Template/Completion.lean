import MockData.Proofs.Template.Preflight

/-!
# Compiled templates have something to draw from

A resolution meets an empty range where bounds are reversed, where a choice has no options or an
index lies outside them, and where a provider has nothing to draw from. The directives of a compiled
template are sound, which leaves only its providers: `compiled_completes`.
-/

namespace MockData

namespace Template

/-- There is a value or a failure that is reported; nothing was drawn from an empty range. -/
inductive Completes : Except DirectiveError Json → Prop where
  | value (v : Json) : Completes (.ok v)
  | failure {e : DirectiveError} (reported : ∀ place, e ≠ .emptyRange place) : Completes (.error e)

theorem completes_of_ne {outcome : Except DirectiveError Json}
    (never : ∀ place, outcome ≠ .error (.emptyRange place)) : Completes outcome := by
  cases outcome with
  | ok v => exact .value v
  | error e => exact .failure fun place same => never place (congrArg Except.error same)

variable {σ : Type} [RandomSource σ] (registry : Registry (Provider σ)) (context : RecordContext)

/-- A directive that is not sound is where a resolution would meet an empty range. -/
theorem resolve_emptyRange (place : Location) (p : Progress σ) :
    (∀ min max element, max < min →
      (resolve registry context (.array place (.range min max) element)).run p =
        (.error (.emptyRange place), p)) ∧
    (resolve registry context (.oneOf place [])).run p = (.error (.emptyRange place), p) := by
  constructor
  · intro min max element reversed
    rw [resolve, drawCardinality, if_pos (UInt64.lt_iff_toNat_lt.mp reversed)]
    rfl
  · rw [resolve]
    rfl

/-- A sound template meets an empty range only in a provider that it calls. -/
theorem provider_of_emptyRange {t : Template} (sound : t.AllSound) {p : Progress σ}
    {place : Location}
    (met : ((t.resolve registry context).run p).1 = .error (.emptyRange place)) :
    ∃ path args provider source, .faker place path args ∈ t.directives ∧
      registry.resolve path = .ok provider ∧
      (provider context (args.map .object) source).1 = .error .emptyRange := by
  have outcome := fails_of_resolve registry context sound p
  rw [met] at outcome
  obtain ⟨site, path, args, member, fails⟩ := outcome
  rcases (fails.blames member).named with named | ⟨same, provider, source, found, given⟩
  · exact nomatch named
  · cases same
    exact ⟨path, args, provider, source, member, Registry.lookup_ok.mp found, given⟩

/-- The directives of a compiled template are sound: paths are not empty, bounds are in order, there
is an option to choose, and probabilities are between zero and one. So whatever is drawn, only a
provider can meet an empty range, and if none does there is a value or a failure that is reported. -/
theorem compiled_completes {value : Json} {root : String} {limit : Nat} {t : Template}
    (compiled : compile value root limit = .ok t) :
    t.AllSound ∧
    (∀ (p : Progress σ) place,
      ((t.resolve registry context).run p).1 = .error (.emptyRange place) →
        ∃ path args provider source, .faker place path args ∈ t.directives ∧
          registry.resolve path = .ok provider ∧
          (provider context (args.map .object) source).1 = .error .emptyRange) ∧
    ((∀ place path args, .faker place path args ∈ t.directives →
        ∀ provider, registry.resolve path = .ok provider →
          ∀ source, (provider context (args.map .object) source).1 ≠ .error .emptyRange) →
      ∀ p : Progress σ, Completes ((t.resolve registry context).run p).1) := by
  have sound := compile_sound compiled
  refine ⟨sound, fun p place met => provider_of_emptyRange registry context sound met,
    fun complete p => completes_of_ne fun place met => ?_⟩
  obtain ⟨path, args, provider, source, member, found, given⟩ :=
    provider_of_emptyRange registry context sound met
  exact complete place path args member provider found source given

theorem compiled_completes_choices :
    let registry : Registry (Provider Script) :=
      Registry.empty.register "record.index" fun context _ => return .ok (.ofUInt64 context.index)
    let place := Location.atRoot "/template"
    let element := (place.child "$array").child "element"
    let options := element.child "$oneOf"
    let value : Json := .object [("$array", .object
      [("min", .ofUInt64 0), ("max", .ofUInt64 18446744073709551615),
       ("element", .object [("$oneOf", .array
         [.object [("$faker", .string "record.index")],
          .object [("$nullable", .object [("value", .string "x")])]])])])]
    let t : Template := .array place (.range 0 18446744073709551615)
      (.oneOf element
        [.faker (options.child "0") "record.index" none,
         .nullable (options.child "1") .half (.literal (.string "x"))])
    compile value "/template" 8 = .ok t ∧ t.AllSound ∧
      ∀ (context : RecordContext) (p : Progress Script),
        Completes ((t.resolve registry context).run p).1 := by
  intro registry place element options value t
  have compiled : compile value "/template" 8 = .ok t := by
    rfl
  refine ⟨compiled, (compiled_completes registry ⟨0, .enUS, .midnight 0⟩ compiled).1,
    fun context p => (compiled_completes registry context compiled).2.2 ?_ p⟩
  intro place path args member provider found source
  simp only [t, directives, directivesItems, List.append_nil, List.cons_append,
    List.nil_append, List.mem_cons, List.not_mem_nil, or_false] at member
  rcases member with same | same | same | same
  · exact nomatch same
  · exact nomatch same
  · cases same
    cases found
    exact nofun
  · exact nomatch same

end Template

end MockData
