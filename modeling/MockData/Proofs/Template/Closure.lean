import MockData.Proofs.Random.Draws
import MockData.Proofs.Template.Directives
import MockData.Proofs.Template.Resolution

/-!
# Properties of every resolution

A property that holds of single steps and passes on to what is put together from them holds of the
resolution of every template. `resolve_closed` is the induction over templates that such properties
have in common; it asks something of the directives only.
-/

namespace MockData

variable {σ : Type}

namespace Resolution

/-- The property passes from steps to what is put together from them. What follows a draw is asked
only for what can be drawn. -/
structure Closed (C : ∀ {α : Type}, Resolution σ α → Prop) : Prop where
  of_pure {α : Type} (a : α) : C (pure a : Resolution σ α)
  of_draw {α β : Type} (d : Draw σ α) {f : α → Resolution σ β} (next : ∀ s, C (f (d s).1)) :
    C (draw d >>= f)
  bind {α β : Type} {r : Resolution σ α} {f : α → Resolution σ β} (h : C r)
    (next : ∀ a, C (f a)) : C (r >>= f)

namespace Closed

variable {C : ∀ {α : Type}, Resolution σ α → Prop}

theorem draw (closed : Closed C) {α : Type} (d : Draw σ α) : C (Resolution.draw d) := by
  rw [← bind_pure (Resolution.draw d)]
  exact closed.of_draw d fun s => closed.of_pure _

theorem replicate (closed : Closed C) {α : Type} {r : Resolution σ α} (h : C r) (n : Nat) :
    C (Resolution.replicate n r) := by
  have loop : ∀ done : List α, C (replicate.loop r n done) := by
    induction n with
    | zero => exact fun done => closed.of_pure done.reverse
    | succ n ih => exact fun done => closed.bind h fun a => ih (a :: done)
  exact loop []

end Closed

/-- What is asked of failures alone passes on. -/
theorem Ensures.closed (E : DirectiveError → Prop) :
    Closed fun r : Resolution σ _ => Ensures r (fun _ => True) E where
  of_pure _ := Ensures.of_pure trivial
  of_draw d _ next := (Ensures.of_draw d).bind fun _ ⟨s, drawn⟩ => drawn ▸ next s
  bind h next := h.bind fun a _ => next a

end Resolution

namespace Template

open Resolution

section

variable (registry : Registry (Provider σ)) (context : RecordContext)
  (C : ∀ {α : Type}, Resolution σ α → Prop)

/-- The property holds of what a directive itself does: its call, or the failure to draw that only a
directive which is not sound can meet. -/
def Supported : Template → Prop
  | .faker place path args => C (call registry context place path args)
  | n => ¬ n.Sound → ∀ (α : Type) (place : Location), C (throw (.emptyRange place) : Resolution σ α)

end

variable [RandomSource σ] {registry : Registry (Provider σ)} {context : RecordContext}
  {C : ∀ {α : Type}, Resolution σ α → Prop}

theorem drawCardinality_closed (closed : Closed C) {place : Location} {cardinality : Cardinality}
    {element : Template}
    (supported : Supported registry context C (.array place cardinality element)) :
    C (drawCardinality place cardinality : Resolution σ Nat) := by
  cases cardinality with
  | fixed count => exact closed.of_pure _
  | range min max =>
    rw [drawCardinality]
    split
    · rename_i reversed
      exact supported (fun ordered => Nat.not_le_of_lt reversed ordered) Nat place
    · exact closed.draw _

mutual
theorem resolve_closed (closed : Closed C) : ∀ t : Template,
    (∀ n ∈ t.directives, Supported registry context C n) → C (t.resolve registry context)
  | .literal value, _ => by
    rw [resolve]
    exact closed.of_pure value
  | .sequence items, supported => by
    rw [resolve]
    exact closed.bind (resolveItems_closed closed items supported) fun vs => closed.of_pure _
  | .mapping entries, supported => by
    rw [resolve]
    exact closed.bind (resolveEntries_closed closed entries supported) fun vs => closed.of_pure _
  | .faker place path args, supported => by
    rw [resolve]
    exact supported _ List.mem_cons_self
  | .array place cardinality element, supported => by
    rw [directives, List.forall_mem_cons] at supported
    rw [resolve]
    exact closed.bind (drawCardinality_closed closed supported.1) fun n =>
      closed.bind (closed.replicate (resolve_closed closed element supported.2) n) fun vs =>
        closed.of_pure _
  | .oneOf place options, supported => by
    rw [directives, List.forall_mem_cons] at supported
    rw [resolve]
    split
    · rename_i empty
      exact supported.1 (fun sound => sound (List.isEmpty_iff.mp empty)) Json place
    · rename_i nonempty
      -- What is drawn is the index of an option, so the end of the list is never reached.
      refine closed.of_draw _ fun s => resolveOption_closed closed place options _ ?_ supported.2
      exact Draw.index_lt (List.length_pos_iff.mpr fun empty => nonempty (by simp [empty])) s
  | .nullable place probability value, supported => by
    rw [directives, List.forall_mem_cons] at supported
    rw [resolve]
    refine closed.of_draw _ fun s => ?_
    split
    · exact closed.of_pure _
    · exact resolve_closed closed value supported.2
theorem resolveItems_closed (closed : Closed C) : ∀ items : List Template,
    (∀ n ∈ directivesItems items, Supported registry context C n) →
      C (resolveItems registry context items)
  | [], _ => by
    rw [resolveItems]
    exact closed.of_pure []
  | t :: rest, supported => by
    rw [directivesItems, List.forall_mem_append] at supported
    rw [resolveItems]
    exact closed.bind (resolve_closed closed t supported.1) fun v =>
      closed.bind (resolveItems_closed closed rest supported.2) fun vs => closed.of_pure _
theorem resolveEntries_closed (closed : Closed C) : ∀ entries : List (String × Template),
    (∀ n ∈ directivesEntries entries, Supported registry context C n) →
      C (resolveEntries registry context entries)
  | [], _ => by
    rw [resolveEntries]
    exact closed.of_pure []
  | (key, t) :: rest, supported => by
    rw [directivesEntries, List.forall_mem_append] at supported
    rw [resolveEntries]
    exact closed.bind (resolve_closed closed t supported.1) fun v =>
      closed.bind (resolveEntries_closed closed rest supported.2) fun vs => closed.of_pure _
theorem resolveOption_closed (closed : Closed C) (place : Location) :
    ∀ (options : List Template) (i : Nat), i < options.length →
      (∀ n ∈ directivesItems options, Supported registry context C n) →
        C (resolveOption registry context place options i)
  | [], i, inside, _ => absurd inside (Nat.not_lt_zero i)
  | t :: rest, 0, _, supported => by
    rw [directivesItems, List.forall_mem_append] at supported
    rw [resolveOption]
    exact resolve_closed closed t supported.1
  | t :: rest, i + 1, inside, supported => by
    rw [directivesItems, List.forall_mem_append] at supported
    rw [resolveOption]
    exact resolveOption_closed closed place rest i (Nat.lt_of_succ_lt_succ inside) supported.2
end

end Template

end MockData
