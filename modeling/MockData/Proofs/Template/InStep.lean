import MockData.Proofs.Template.Directives
import MockData.Template.Resolve

/-!
# Resolutions in step

Two resolutions of a template that differ in their registries, their contexts or their sources go
through the same steps, apart from the calls. `resolve_inStep` is the induction over templates that
relations between the two have in common: what holds of the calls of a template, and passes on from
steps to what is put together from them, holds of the two resolutions.
-/

namespace MockData

variable {σ τ : Type} [RandomSource σ] [RandomSource τ]

namespace Resolution

/-- The relation holds between the same steps on both sides, and passes from related parts to what is
put together from them in the same way. -/
structure InStep (R : ∀ {α : Type}, Resolution σ α → Resolution τ α → Prop) : Prop where
  of_pure {α : Type} (a : α) : R (pure a : Resolution σ α) (pure a)
  of_throw {α : Type} (e : DirectiveError) : R (throw e : Resolution σ α) (throw e)
  index (n : Nat) : R (draw (Draw.index n)) (draw (Draw.index n))
  between (min max : Nat) : R (draw (Draw.between64 min max)) (draw (Draw.between64 min max))
  chance (p : Binary64) : R (draw (Draw.chance p)) (draw (Draw.chance p))
  bind {α β : Type} {r : Resolution σ α} {r' : Resolution τ α} {f : α → Resolution σ β}
    {f' : α → Resolution τ β} (h : R r r') (next : ∀ a, R (f a) (f' a)) : R (r >>= f) (r' >>= f')

namespace InStep

variable {R : ∀ {α : Type}, Resolution σ α → Resolution τ α → Prop}

theorem replicate (inStep : InStep R) {α : Type} {r : Resolution σ α} {r' : Resolution τ α}
    (h : R r r') (n : Nat) : R (Resolution.replicate n r) (Resolution.replicate n r') := by
  have loop : ∀ done : List α, R (replicate.loop r n done) (replicate.loop r' n done) := by
    induction n with
    | zero => exact fun done => inStep.of_pure done.reverse
    | succ n ih => exact fun done => inStep.bind h fun a => ih (a :: done)
  exact loop []

theorem drawCardinality (inStep : InStep R) (place : Location) (cardinality : Cardinality) :
    R (Template.drawCardinality place cardinality) (Template.drawCardinality place cardinality) := by
  cases cardinality with
  | fixed count => exact inStep.of_pure count.toNat
  | range min max =>
    rw [Template.drawCardinality, Template.drawCardinality]
    split
    · exact inStep.of_throw _
    · exact inStep.between _ _

end InStep

end Resolution

namespace Template

open Resolution

section

variable (registry : Registry (Provider σ)) (context : RecordContext)
  (registry' : Registry (Provider τ)) (context' : RecordContext)
  (R : ∀ {α : Type}, Resolution σ α → Resolution τ α → Prop)

def CallsInStep : Template → Prop
  | .faker place path args =>
    R (call registry context place path args) (call registry' context' place path args)
  | _ => True

end

variable {registry : Registry (Provider σ)} {context : RecordContext}
  {registry' : Registry (Provider τ)} {context' : RecordContext}
  {R : ∀ {α : Type}, Resolution σ α → Resolution τ α → Prop}

mutual
theorem resolve_inStep (inStep : InStep R) : ∀ t : Template,
    (∀ n ∈ t.directives, CallsInStep registry context registry' context' R n) →
      R (t.resolve registry context) (t.resolve registry' context')
  | .literal value, _ => by
    rw [resolve, resolve]
    exact inStep.of_pure value
  | .sequence items, calls => by
    rw [resolve, resolve]
    exact inStep.bind (resolveItems_inStep inStep items calls) fun vs => inStep.of_pure _
  | .mapping entries, calls => by
    rw [resolve, resolve]
    exact inStep.bind (resolveEntries_inStep inStep entries calls) fun vs => inStep.of_pure _
  | .faker place path args, calls => by
    rw [resolve, resolve]
    exact calls _ List.mem_cons_self
  | .array place cardinality element, calls => by
    rw [directives, List.forall_mem_cons] at calls
    rw [resolve, resolve]
    exact inStep.bind (inStep.drawCardinality place cardinality) fun n =>
      inStep.bind (inStep.replicate (resolve_inStep inStep element calls.2) n) fun vs =>
        inStep.of_pure _
  | .oneOf place options, calls => by
    rw [directives, List.forall_mem_cons] at calls
    rw [resolve, resolve]
    split
    · exact inStep.of_throw _
    · exact inStep.bind (inStep.index _) fun i =>
        resolveOption_inStep inStep place options i calls.2
  | .nullable place probability value, calls => by
    rw [directives, List.forall_mem_cons] at calls
    rw [resolve, resolve]
    refine inStep.bind (inStep.chance probability) fun null => ?_
    cases null with
    | true => exact inStep.of_pure _
    | false => exact resolve_inStep inStep value calls.2
theorem resolveItems_inStep (inStep : InStep R) : ∀ items : List Template,
    (∀ n ∈ directivesItems items, CallsInStep registry context registry' context' R n) →
      R (resolveItems registry context items) (resolveItems registry' context' items)
  | [], _ => by
    rw [resolveItems, resolveItems]
    exact inStep.of_pure []
  | t :: rest, calls => by
    rw [directivesItems, List.forall_mem_append] at calls
    rw [resolveItems, resolveItems]
    exact inStep.bind (resolve_inStep inStep t calls.1) fun v =>
      inStep.bind (resolveItems_inStep inStep rest calls.2) fun vs => inStep.of_pure _
theorem resolveEntries_inStep (inStep : InStep R) : ∀ entries : List (String × Template),
    (∀ n ∈ directivesEntries entries, CallsInStep registry context registry' context' R n) →
      R (resolveEntries registry context entries) (resolveEntries registry' context' entries)
  | [], _ => by
    rw [resolveEntries, resolveEntries]
    exact inStep.of_pure []
  | (key, t) :: rest, calls => by
    rw [directivesEntries, List.forall_mem_append] at calls
    rw [resolveEntries, resolveEntries]
    exact inStep.bind (resolve_inStep inStep t calls.1) fun v =>
      inStep.bind (resolveEntries_inStep inStep rest calls.2) fun vs => inStep.of_pure _
theorem resolveOption_inStep (inStep : InStep R) (place : Location) :
    ∀ (options : List Template) (i : Nat),
      (∀ n ∈ directivesItems options, CallsInStep registry context registry' context' R n) →
        R (resolveOption registry context place options i)
          (resolveOption registry' context' place options i)
  | [], i, _ => by
    rw [resolveOption, resolveOption]
    exact inStep.of_throw _
  | t :: rest, 0, calls => by
    rw [directivesItems, List.forall_mem_append] at calls
    rw [resolveOption, resolveOption]
    exact resolve_inStep inStep t calls.1
  | t :: rest, i + 1, calls => by
    rw [directivesItems, List.forall_mem_append] at calls
    rw [resolveOption, resolveOption]
    exact resolveOption_inStep inStep place rest i calls.2
end

end Template

end MockData
