import MockData.Proofs.Generation.Independence
import MockData.Proofs.Template.Conformance
import MockData.Proofs.Template.Failures
import MockData.Proofs.Template.Soundness

/-!
# Looking up paths before a run

`Registry.check` looks up every call of a template without a draw. A resolution fails at one of
these calls and nowhere else, and a call that finds no provider is one that the check has listed.
Where a template leaves nothing to chance, the first failure on the list is that of the resolution.
-/

namespace MockData

namespace Registry

variable {α : Type} {r : Registry α} {place : Location} {path : String} {e : DirectiveError}

def faults (r : Registry α) (calls : List Template.Call) : List DirectiveError :=
  calls.filterMap fun call =>
    match r.lookup call.place call.path with
    | .ok _ => none
    | .error e => some e

theorem faults_append (r : Registry α) (first rest : List Template.Call) :
    r.faults (first ++ rest) = r.faults first ++ r.faults rest :=
  List.filterMap_append

theorem faults_ok {p : α} (found : r.lookup place path = .ok p) :
    r.faults [⟨place, path⟩] = [] := by
  simp [faults, found]

theorem faults_error (missed : r.lookup place path = .error e) :
    r.faults [⟨place, path⟩] = [e] := by
  simp [faults, missed]

theorem mem_check {t : Template} {args : Option (List (String × Json))}
    (member : .faker place path args ∈ t.directives) (missed : r.lookup place path = .error e) :
    e ∈ r.check t := by
  refine List.mem_filterMap.mpr ⟨_, Template.mem_calls_of_faker member, ?_⟩
  dsimp only
  rw [missed]

end Registry

namespace Template

open Resolution

section

variable {σ : Type} (registry : Registry (Provider σ)) (context : RecordContext)

/-- The failure names a call of the template. A provider with nothing to draw from leaves no path:
it ends the program. -/
structure Blames (t : Template) (e : DirectiveError) (place : Location) (path : String)
    (args : Option (List (String × Json))) : Prop where
  visited : .faker place path args ∈ t.directives
  site : ⟨.faker, place⟩ ∈ t.sites
  call : ⟨place, path⟩ ∈ t.calls
  located : e.place = place
  named : e.path? = some path ∨ e = .emptyRange place ∧
    ∃ provider source, registry.lookup place path = .ok provider ∧
      (provider context (args.map .object) source).1 = .error .emptyRange

section

variable {registry context} {t : Template} {e : DirectiveError} {place : Location} {path : String}
  {args : Option (List (String × Json))}

theorem CallFails.blames (fails : CallFails registry context place path args e)
    (member : .faker place path args ∈ t.directives) :
    Blames registry context t e place path args := by
  have site := mem_sites_of_faker member
  have call := mem_calls_of_faker member
  cases fails with
  | missed missed =>
    obtain ⟨located, named, _⟩ := Registry.lookup_error missed
    exact ⟨member, site, call, located, .inl named⟩
  | @failed provider source e found given =>
    rcases e.located_eq place path with same | ⟨rfl, same⟩
    · rw [same]
      exact ⟨member, site, call, rfl, .inl rfl⟩
    · rw [same]
      exact ⟨member, site, call, rfl, .inr ⟨rfl, provider, source, found, given⟩⟩

theorem CallFails.mem_check (fails : CallFails registry context place path args e)
    (member : .faker place path args ∈ t.directives) (fault : e.IsPathFault) :
    e ∈ registry.check t := by
  cases fails with
  | missed missed => exact Registry.mem_check member missed
  | failed _ _ => exact absurd fault (ProviderError.located_not_pathFault _ _ _)

theorem Blames.not_malformed (blames : Blames registry context t e place path args)
    (other : Location) (cause : Malformation) : e ≠ .malformed other cause := by
  rintro rfl
  rcases blames.named with named | ⟨same, _⟩
  · exact nomatch named
  · exact nomatch same

theorem Blames.not_tooDeep (blames : Blames registry context t e place path args)
    (other : Location) (limit : Nat) : e ≠ .tooDeep other limit := by
  rintro rfl
  rcases blames.named with named | ⟨same, _⟩
  · exact nomatch named
  · exact nomatch same

end

/-- Nothing in the directive is left to chance but the number of elements, and there is one. -/
def Steady : Template → Prop
  | .array _ (.fixed count) _ => 1 ≤ count
  | .array _ (.range min _) _ => 1 ≤ min
  | .oneOf _ _ => False
  | .nullable _ _ _ => False
  | _ => True

theorem one_le_of_steady {place : Location} {cardinality : Cardinality} {element : Template}
    (steady : Steady (.array place cardinality element)) {n : Nat}
    (admitted : cardinality.Admits n) : 1 ≤ n := by
  cases cardinality with
  | fixed count =>
    obtain rfl : n = count.toNat := admitted
    exact UInt64.le_iff_toNat_le.mp steady
  | range min max => exact Nat.le_trans (UInt64.le_iff_toNat_le.mp steady) admitted.1

/-- What the calls foretell: there is a value only if each finds its provider, and the first that
does not is where the resolution ends. -/
def Foretold {α : Type} (r : Resolution σ α) (calls : List Call) : Prop :=
  Ensures r (fun _ => registry.faults calls = []) fun e =>
    e.IsPathFault → (registry.faults calls).head? = some e

theorem Foretold.of_pure {α : Type} (a : α) : Foretold registry (pure a) [] :=
  Ensures.of_pure rfl

theorem Foretold.bind {α β : Type} {r : Resolution σ α} {f : α → Resolution σ β}
    {first rest : List Call} (h : Foretold registry r first)
    (next : ∀ a, Foretold registry (f a) rest) : Foretold registry (r >>= f) (first ++ rest) := by
  unfold Foretold
  rw [Registry.faults_append]
  refine Ensures.bind (h.weaken (fun _ none => none) fun e fault path => ?_) fun a none => ?_
  · rw [List.head?_append, fault path]
    rfl
  · refine (next a).weaken (fun _ more => ?_) fun e fault path => ?_
    · rw [none, more]
      rfl
    · rw [none]
      exact fault path

theorem foretold_call (place : Location) (path : String) (args : Option (List (String × Json))) :
    Foretold registry (call registry context place path args) [⟨place, path⟩] := by
  refine ensures_call (fun e missed _ => ?_) (fun provider found _ _ _ => ?_) ?_
  · rw [Registry.faults_error missed]
    rfl
  · exact Registry.faults_ok found
  · exact fun _ _ _ e _ path => absurd path (e.located_not_pathFault _ _)

variable [RandomSource σ]

mutual
theorem resolve_foretold : ∀ t : Template, (∀ n ∈ t.directives, n.Steady) →
    Foretold registry (t.resolve registry context) t.calls
  | .literal value, _ => by
    rw [resolve, calls]
    exact Foretold.of_pure registry value
  | .sequence items, steady => by
    rw [resolve, calls]
    exact Ensures.bind (resolveItems_foretold items steady) fun _ none => Ensures.of_pure none
  | .mapping entries, steady => by
    rw [resolve, calls]
    exact Ensures.bind (resolveEntries_foretold entries steady) fun _ none => Ensures.of_pure none
  | .faker place path args, _ => by
    rw [resolve, calls]
    exact foretold_call registry context place path args
  | .array place cardinality element, steady => by
    rw [directives, List.forall_mem_cons] at steady
    rw [resolve, calls]
    refine Ensures.bind ((ensures_drawCardinality place cardinality).weaken (fun _ h => h) ?_) ?_
    · rintro _ rfl path
      exact False.elim path
    · intro n admitted
      -- Each element foretells the same, so it is enough that there is a first one.
      have positive := one_le_of_steady steady.1 admitted
      refine Ensures.bind (Ensures.of_replicate (resolve_foretold element steady.2) n) ?_
      rintro vs ⟨rfl, none⟩
      obtain ⟨v, rest, rfl⟩ := List.exists_cons_of_length_pos positive
      exact Ensures.of_pure (none v List.mem_cons_self)
  | .oneOf _ _, steady => False.elim (steady _ List.mem_cons_self)
  | .nullable _ _ _, steady => False.elim (steady _ List.mem_cons_self)
theorem resolveItems_foretold : ∀ items : List Template,
    (∀ n ∈ directivesItems items, n.Steady) →
      Foretold registry (resolveItems registry context items) (callsItems items)
  | [], _ => by
    rw [resolveItems, callsItems]
    exact Foretold.of_pure registry []
  | t :: rest, steady => by
    rw [directivesItems, List.forall_mem_append] at steady
    rw [resolveItems, callsItems]
    exact Foretold.bind registry (resolve_foretold t steady.1) fun _ =>
      Ensures.bind (resolveItems_foretold rest steady.2) fun _ none => Ensures.of_pure none
theorem resolveEntries_foretold : ∀ entries : List (String × Template),
    (∀ n ∈ directivesEntries entries, n.Steady) →
      Foretold registry (resolveEntries registry context entries) (callsEntries entries)
  | [], _ => by
    rw [resolveEntries, callsEntries]
    exact Foretold.of_pure registry []
  | (key, t) :: rest, steady => by
    rw [directivesEntries, List.forall_mem_append] at steady
    rw [resolveEntries, callsEntries]
    exact Foretold.bind registry (resolve_foretold t steady.1) fun _ =>
      Ensures.bind (resolveEntries_foretold rest steady.2) fun _ none => Ensures.of_pure none
end

end

/-- A record that fails in a run fails by itself. -/
theorem fails_of_records {registry : Registry (Provider ChaCha8)} {context : RunContext}
    {document : Document} (sound : document.template.AllSound) {number : Nat} {e : DirectiveError}
    (failed : Generation.records registry context document = .error (.record number e)) :
    ∃ index place path args, .faker place path args ∈ document.template.directives ∧
      CallFails registry (context.ofRecord index) place path args e := by
  obtain ⟨k, _, f, first, same⟩ :=
    ((Generation.records_combined registry context document).error_iff _).mp failed
  cases same
  let index := UInt64.ofNat k
  let start : Progress ChaCha8 := ⟨ChaCha8.ofSeed (recordSeed context.seed index), []⟩
  have alone : ((document.template.resolve registry (context.ofRecord index)).run start).1 =
      .error e := first.1
  have outcome := fails_of_resolve registry (context.ofRecord index) sound start
  rw [alone] at outcome
  exact ⟨index, outcome⟩

section

variable {σ : Type} [RandomSource σ] (registry : Registry (Provider σ)) (context : RecordContext)

/-- A compiled template fails at one of its calls, and the check lists the failure if the call finds
no provider. So a run after an empty check meets no such failure. Where nothing is left to chance
and no provider fails, the outcome is the first failure on the list. -/
theorem check_covers_path_faults {value : Json} {root : String} {limit : Nat} {t : Template}
    (compiled : compile value root limit = .ok t) :
    (∀ (p : Progress σ) (e : DirectiveError), ((t.resolve registry context).run p).1 = .error e →
      (∀ place cause, e ≠ .malformed place cause) ∧ (∀ place limit, e ≠ .tooDeep place limit) ∧
      (∃ place path args, Blames registry context t e place path args) ∧
      (e.IsPathFault → e ∈ registry.check t)) ∧
    (∀ (registry : Registry (Provider ChaCha8)) (context : RunContext) (document : Document),
      document.template = t → registry.check t = [] → ∀ number e,
        Generation.records registry context document = .error (.record number e) →
          ¬ e.IsPathFault) ∧
    ((∀ n ∈ t.directives, n.Steady) →
      (∀ place path args, .faker place path args ∈ t.directives →
        ∀ provider, registry.lookup place path = .ok provider →
          ∀ source, ∃ v, (provider context (args.map .object) source).1 = .ok v) →
      ∀ (p : Progress σ) (e : DirectiveError), ((t.resolve registry context).run p).1 = .error e ↔
        (registry.check t).head? = some e) := by
  have sound := compile_sound compiled
  refine ⟨fun p e failed => ?_, fun registry context document same empty number e failed => ?_,
    fun steady answers p e => ?_⟩
  · have outcome := fails_of_resolve registry context sound p
    rw [failed] at outcome
    obtain ⟨place, path, args, member, fails⟩ := outcome
    have blames := fails.blames member
    exact ⟨blames.not_malformed, blames.not_tooDeep, ⟨place, path, args, blames⟩,
      fails.mem_check member⟩
  · subst same
    intro fault
    obtain ⟨index, place, path, args, member, fails⟩ := fails_of_records sound failed
    have listed := fails.mem_check member fault
    rw [empty] at listed
    exact nomatch listed
  · have outcome := fails_of_resolve registry context sound p
    have foretold := resolve_foretold registry context t steady p
    generalize ((t.resolve registry context).run p).1 = result at outcome foretold ⊢
    cases result with
    | ok v =>
      have empty : registry.check t = [] := foretold
      simp [empty]
    | error f =>
      obtain ⟨place, path, args, member, fails⟩ := outcome
      have first : (registry.check t).head? = some f := by
        cases fails with
        | missed missed =>
          obtain ⟨_, _, fault⟩ := Registry.lookup_error missed
          exact foretold fault
        | @failed provider source _ found given =>
          obtain ⟨v, answer⟩ := answers place path args member provider found source
          rw [given] at answer
          exact nomatch answer
      simp [first]

end

theorem check_covers_path_faults_rows :
    let registry : Registry (Provider Script) :=
      Registry.empty.register "record.index" fun context _ => return .ok (.ofUInt64 context.index)
    let place := Location.atRoot "/template"
    let element := ((place.child "rows").child "$array").child "element"
    let value : Json := .object
      [("id", .object [("$faker", .string "record.index")]),
       ("rows", .object [("$array", .object
         [("count", .ofUInt64 2), ("element", .object [("$faker", .string "record.total")])])]),
       ("whole", .object [("$faker", .string "record")])]
    let t : Template := .mapping
      [("id", .faker (place.child "id") "record.index" none),
       ("rows", .array (place.child "rows") (.fixed 2) (.faker element "record.total" none)),
       ("whole", .faker (place.child "whole") "record" none)]
    compile value "/template" 8 = .ok t ∧
      ∀ (context : RecordContext) (p : Progress Script),
        ((t.resolve registry context).run p).1 =
          .error (.missingProvider element "record.total" "total") := by
  intro registry place element value t
  have compiled : compile value "/template" 8 = .ok t := by
    rfl
  refine ⟨compiled, fun context p => ?_⟩
  obtain ⟨_, _, foretold⟩ := check_covers_path_faults registry context compiled
  refine (foretold ?_ ?_ p _).mpr ?_
  · intro n member
    simp only [t, directives, directivesEntries, List.append_nil, List.cons_append,
      List.nil_append, List.mem_cons, List.not_mem_nil, or_false] at member
    rcases member with rfl | rfl | rfl | rfl
    · trivial
    · exact (by decide : (1 : UInt64) ≤ 2)
    · trivial
    · trivial
  · intro place path args member provider found source
    simp only [t, directives, directivesEntries, List.append_nil, List.cons_append,
      List.nil_append, List.mem_cons, List.not_mem_nil, or_false] at member
    rcases member with same | same | same | same
    · cases same
      cases found
      exact ⟨_, rfl⟩
    · exact nomatch same
    · cases same
      exact nomatch found
    · cases same
      exact nomatch found
  · decide +kernel

end Template

end MockData
