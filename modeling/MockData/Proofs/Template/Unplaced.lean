import MockData.Proofs.Template.Resolution

/-!
# Templates without their places

A place in a template is there for messages only. Templates that are the same without their places
are resolved to the same value with the same progress, or fail in the same way at different places:
`resolve_eq_of_unplaced`.
-/

namespace MockData

namespace DirectiveError

/-- The failure as if it were met at the root. -/
def unplaced : DirectiveError → DirectiveError
  | .malformed _ cause => .malformed (.atRoot "") cause
  | .missingProvider _ path segment => .missingProvider (.atRoot "") path segment
  | .notCallable _ path => .notCallable (.atRoot "") path
  | .providerFailed _ path reason => .providerFailed (.atRoot "") path reason
  | .tooDeep _ limit => .tooDeep (.atRoot "") limit
  | .emptyRange _ => .emptyRange (.atRoot "")

theorem reason_unplaced (e : DirectiveError) : e.unplaced.reason = e.reason := by
  cases e <;> rfl

theorem reason_eq {e d : DirectiveError} (same : e.unplaced = d.unplaced) :
    e.reason = d.reason := by
  rw [← reason_unplaced e, same, reason_unplaced d]

end DirectiveError

namespace Template

mutual
/-- The template as if all its directives came from the root. -/
def unplaced : Template → Template
  | .literal value => .literal value
  | .sequence items => .sequence (unplacedItems items)
  | .mapping entries => .mapping (unplacedEntries entries)
  | .faker _ path args => .faker (.atRoot "") path args
  | .array _ cardinality element => .array (.atRoot "") cardinality (unplaced element)
  | .oneOf _ options => .oneOf (.atRoot "") (unplacedItems options)
  | .nullable _ probability value => .nullable (.atRoot "") probability (unplaced value)
def unplacedItems : List Template → List Template
  | [] => []
  | t :: rest => unplaced t :: unplacedItems rest
def unplacedEntries : List (String × Template) → List (String × Template)
  | [] => []
  | (key, t) :: rest => (key, unplaced t) :: unplacedEntries rest
end

theorem unplacedItems_eq (items : List Template) : unplacedItems items = items.map unplaced := by
  induction items with
  | nil => rfl
  | cons t rest ih => rw [unplacedItems, ih, List.map_cons]

theorem unplacedEntries_eq (entries : List (String × Template)) :
    unplacedEntries entries = entries.map (Prod.map id unplaced) := by
  induction entries with
  | nil => rfl
  | cons entry rest ih =>
    rw [unplacedEntries, ih]
    rfl

end Template

namespace Resolution

variable {σ α β : Type}

/-- The resolution with its failure met at the root. -/
def unplaced (r : Resolution σ α) : Resolution σ α := fun p =>
  ((r.run p).1.mapError DirectiveError.unplaced, (r.run p).2)

theorem unplaced_bind (r : Resolution σ α) (f : α → Resolution σ β) :
    unplaced (r >>= f) = unplaced r >>= fun a => unplaced (f a) := by
  funext p
  show ((r >>= f).run p |>.1.mapError _, ((r >>= f).run p).2) = (unplaced r >>= _).run p
  rw [run_bind, run_bind]
  show _ = match (((r.run p).1.mapError DirectiveError.unplaced, (r.run p).2) :
    Except DirectiveError α × Progress σ) with
    | (.ok a, q) => (unplaced (f a)).run q
    | (.error e, q) => (.error e, q)
  rcases r.run p with ⟨_ | a, q⟩ <;> rfl

theorem unplaced_replicate (r : Resolution σ α) (n : Nat) :
    unplaced (replicate n r) = replicate n (unplaced r) := by
  have loop : ∀ done, unplaced (replicate.loop r n done) = replicate.loop (unplaced r) n done := by
    induction n with
    | zero => exact fun _ => rfl
    | succ n ih =>
      intro done
      rw [replicate.loop, replicate.loop, unplaced_bind]
      exact congrArg (unplaced r >>= ·) (funext fun a => ih (a :: done))
  exact loop []

/-- Resolutions that are the same without places give the same value and make the same progress, or
fail in the same way. -/
theorem run_of_unplaced_eq {r r' : Resolution σ α} (same : r.unplaced = r'.unplaced)
    (p : Progress σ) : (r.run p).2 = (r'.run p).2 ∧
      ((∃ a, (r.run p).1 = .ok a ∧ (r'.run p).1 = .ok a) ∨
        ∃ e d, (r.run p).1 = .error e ∧ (r'.run p).1 = .error d ∧ e.unplaced = d.unplaced) := by
  have outcomes : (unplaced r).run p = (unplaced r').run p := congrArg (·.run p) same
  obtain ⟨failures, progress⟩ := Prod.mk.inj outcomes
  refine ⟨progress, ?_⟩
  cases here : (r.run p).1 with
  | ok a =>
    cases there : (r'.run p).1 with
    | ok b =>
      rw [here, there] at failures
      cases failures
      exact .inl ⟨a, rfl, rfl⟩
    | error d =>
      rw [here, there] at failures
      exact nomatch failures
  | error e =>
    cases there : (r'.run p).1 with
    | ok b =>
      rw [here, there] at failures
      exact nomatch failures
    | error d =>
      rw [here, there] at failures
      exact .inr ⟨e, d, rfl, rfl, Except.error.inj failures⟩

end Resolution

namespace Template

open Resolution

variable {σ : Type}

theorem unplaced_settle (place : Location) (path : String) (answer : Except ProviderError Json) :
    Resolution.unplaced (settle (.atRoot "") path answer : Resolution σ Json) =
      Resolution.unplaced (settle place path answer) := by
  cases answer with
  | ok value => rfl
  | error e => cases e <;> rfl

variable (registry : Registry (Provider σ)) (context : RecordContext)

theorem unplaced_call (place : Location) (path : String) (args : Option (List (String × Json))) :
    Resolution.unplaced (call registry context (.atRoot "") path args) =
      Resolution.unplaced (call registry context place path args) := by
  cases resolved : registry.resolve path with
  | error e =>
    unfold call Registry.lookup
    rw [resolved]
    cases e <;> rfl
  | ok provider =>
    have found (place : Location) : registry.lookup place path = .ok provider :=
      Registry.lookup_ok.mpr resolved
    rw [call_found (found _), call_found (found place), unplaced_bind, unplaced_bind]
    simp only [unplaced_settle place]

variable [RandomSource σ]

theorem unplaced_drawCardinality (place : Location) (cardinality : Cardinality) :
    Resolution.unplaced (drawCardinality (.atRoot "") cardinality : Resolution σ Nat) =
      Resolution.unplaced (drawCardinality place cardinality) := by
  cases cardinality with
  | fixed count => rfl
  | range min max =>
    rw [drawCardinality, drawCardinality]
    split <;> rfl

mutual
/-- The places of a template show in nothing but its failures. -/
theorem unplaced_resolve : ∀ t : Template,
    Resolution.unplaced (t.unplaced.resolve registry context) = Resolution.unplaced (t.resolve registry context)
  | .literal value => rfl
  | .sequence items => by
    rw [Template.unplaced, resolve, resolve, unplaced_bind, unplaced_bind, unplaced_resolveItems items]
  | .mapping entries => by
    rw [Template.unplaced, resolve, resolve, unplaced_bind, unplaced_bind,
      unplaced_resolveEntries entries]
  | .faker place path args => by
    rw [Template.unplaced, resolve, resolve, unplaced_call]
  | .array place cardinality element => by
    rw [Template.unplaced, resolve, resolve, unplaced_bind, unplaced_bind,
      unplaced_drawCardinality place]
    simp only [unplaced_bind, unplaced_replicate, unplaced_resolve element]
  | .oneOf place options => by
    rw [Template.unplaced, resolve, resolve]
    -- Without options the failure has a place of its own.
    cases options with
    | nil => rfl
    | cons t rest =>
      have length : (unplacedItems (t :: rest)).length = (t :: rest).length := by
        rw [unplacedItems_eq, List.length_map]
      rw [length, if_neg (by simp [unplacedItems]), if_neg (by simp)]
      simp only [unplaced_bind, unplaced_resolveOption place (t :: rest)]
  | .nullable place probability value => by
    rw [Template.unplaced, resolve, resolve, unplaced_bind, unplaced_bind]
    congr 1
    funext null
    cases null with
    | true => rfl
    | false => exact unplaced_resolve value
theorem unplaced_resolveItems : ∀ items : List Template,
    Resolution.unplaced (resolveItems registry context (unplacedItems items)) =
      Resolution.unplaced (resolveItems registry context items)
  | [] => rfl
  | t :: rest => by
    rw [unplacedItems, resolveItems, resolveItems]
    simp only [unplaced_bind, unplaced_resolve t, unplaced_resolveItems rest]
theorem unplaced_resolveEntries : ∀ entries : List (String × Template),
    Resolution.unplaced (resolveEntries registry context (unplacedEntries entries)) =
      Resolution.unplaced (resolveEntries registry context entries)
  | [] => rfl
  | (key, t) :: rest => by
    rw [unplacedEntries, resolveEntries, resolveEntries]
    simp only [unplaced_bind, unplaced_resolve t, unplaced_resolveEntries rest]
theorem unplaced_resolveOption (place : Location) : ∀ (options : List Template) (i : Nat),
    Resolution.unplaced (resolveOption registry context (.atRoot "") (unplacedItems options) i) =
      Resolution.unplaced (resolveOption registry context place options i)
  | [], i => rfl
  | t :: rest, 0 => by
    rw [unplacedItems, resolveOption, resolveOption, unplaced_resolve t]
  | t :: rest, i + 1 => by
    rw [unplacedItems, resolveOption, resolveOption, unplaced_resolveOption place rest i]
end

/-- Templates that are the same without places are resolved in the same way. -/
theorem resolve_eq_of_unplaced {t u : Template} (same : t.unplaced = u.unplaced) :
    Resolution.unplaced (t.resolve registry context) = Resolution.unplaced (u.resolve registry context) := by
  rw [← unplaced_resolve registry context t, same, unplaced_resolve registry context u]

end Template

end MockData
