import MockData.Template.Resolve

/-!
# Resolutions

The steps of a resolution, and what holds of its outcome from every progress. `Ensures` is closed
under the ways in which resolutions are put together, so that a property of `resolve` is proved once
for every constructor of a template.
-/

namespace MockData

namespace Resolution

variable {σ α β : Type}

theorem run_bind (r : Resolution σ α) (f : α → Resolution σ β) (p : Progress σ) :
    (r >>= f).run p =
      match r.run p with
      | (.ok a, q) => (f a).run q
      | (.error e, q) => (.error e, q) := by
  show ExceptT.bindCont f (r p).1 (r p).2 = _
  unfold ExceptT.run
  rcases r p with ⟨_ | _, q⟩ <;> rfl

theorem run_draw (d : Draw σ α) (p : Progress σ) :
    (draw d).run p = (.ok (d p.source).1, { p with source := (d p.source).2 }) := rfl

def Outcome (P : α → Prop) (E : DirectiveError → Prop) : Except DirectiveError α → Prop
  | .ok a => P a
  | .error e => E e

/-- From every progress the values satisfy `P` and the failures `E`. -/
def Ensures (r : Resolution σ α) (P : α → Prop) (E : DirectiveError → Prop) : Prop :=
  ∀ p, Outcome P E (r.run p).1

variable {P : α → Prop} {Q : β → Prop} {E F : DirectiveError → Prop}

theorem Outcome.weaken {P' : α → Prop} {x : Except DirectiveError α} (holds : Outcome P E x)
    (values : ∀ a, P a → P' a) (failures : ∀ e, E e → F e) : Outcome P' F x := by
  cases x with
  | ok a => exact values a holds
  | error e => exact failures e holds

namespace Ensures

theorem weaken {P' : α → Prop} {r : Resolution σ α} (h : Ensures r P E)
    (values : ∀ a, P a → P' a) (failures : ∀ e, E e → F e) : Ensures r P' F :=
  fun p => (h p).weaken values failures

theorem of_pure {a : α} (h : P a) : Ensures (pure a : Resolution σ α) P E := fun _ => h

theorem of_throw {e : DirectiveError} (h : E e) : Ensures (throw e : Resolution σ α) P E :=
  fun _ => h

theorem bind {r : Resolution σ α} {f : α → Resolution σ β} (h : Ensures r P E)
    (next : ∀ a, P a → Ensures (f a) Q E) : Ensures (r >>= f) Q E := by
  intro p
  have first := h p
  rw [run_bind]
  generalize r.run p = outcome at first ⊢
  rcases outcome with ⟨_ | a, q⟩
  · exact first
  · exact next a first q

theorem of_draw (d : Draw σ α) : Ensures (draw d) (fun a => ∃ s, (d s).1 = a) E :=
  fun p => ⟨p.source, rfl⟩

theorem of_countCall {path : String} {P : Unit → Prop} (h : P ()) :
    Ensures (countCall path : Resolution σ Unit) P E := fun _ => h

theorem of_loop {r : Resolution σ α} (h : Ensures r P E) (n : Nat) (done : List α) :
    Ensures (replicate.loop r n done)
      (fun l => ∃ new : List α, l = done.reverse ++ new ∧ new.length = n ∧ ∀ a ∈ new, P a) E := by
  induction n generalizing done with
  | zero => exact of_pure ⟨[], by simp, rfl, by simp⟩
  | succ n ih =>
    refine bind h fun a holds => (ih (a :: done)).weaken ?_ fun _ e => e
    rintro l ⟨new, rfl, length, all⟩
    exact ⟨a :: new, by simp, by simp [length], by simpa using ⟨holds, all⟩⟩

/-- A repeated resolution gives as many values as asked for, each as a single one. -/
theorem of_replicate {r : Resolution σ α} (h : Ensures r P E) (n : Nat) :
    Ensures (replicate n r) (fun l => l.length = n ∧ ∀ a ∈ l, P a) E := by
  refine (of_loop h n []).weaken ?_ fun _ e => e
  rintro l ⟨new, rfl, length, all⟩
  exact ⟨length, all⟩

end Ensures

end Resolution

namespace Registry

theorem lookup_ok {α : Type} {r : Registry α} {place : Location} {path : String} {p : α} :
    r.lookup place path = .ok p ↔ r.resolve path = .ok p := by
  unfold lookup
  cases r.resolve path with
  | ok _ => simp
  | error e => cases e <;> simp

end Registry

namespace Template

open Resolution

variable {σ : Type}

def settle (place : Location) (path : String) : Except ProviderError Json → Resolution σ Json
  | .ok value => do
    countCall path
    return value
  | .error e => throw (e.located place path)

section

variable {registry : Registry (Provider σ)} {place : Location} {path : String}

theorem call_missed {e : DirectiveError} (missed : registry.lookup place path = .error e)
    (context : RecordContext) (args : Option (List (String × Json))) :
    call registry context place path args = throw e := by
  unfold call
  rw [missed]
  rfl

theorem call_found {provider : Provider σ} (found : registry.lookup place path = .ok provider)
    (context : RecordContext) (args : Option (List (String × Json))) :
    call registry context place path args =
      draw (provider context (args.map .object)) >>= settle place path := by
  unfold call
  rw [found]
  rfl

end

/-- A call fails in the look-up or in the provider, and its value is the provider's. -/
theorem ensures_call {registry : Registry (Provider σ)} {context : RecordContext}
    {place : Location} {path : String} {args : Option (List (String × Json))}
    {P : Json → Prop} {E : DirectiveError → Prop}
    (unfound : ∀ e, registry.lookup place path = .error e → E e)
    (answers : ∀ provider, registry.lookup place path = .ok provider →
      ∀ s v, (provider context (args.map .object) s).1 = .ok v → P v)
    (fails : ∀ provider, registry.lookup place path = .ok provider →
      ∀ s e, (provider context (args.map .object) s).1 = .error e → E (e.located place path)) :
    Ensures (call registry context place path args) P E := by
  unfold call
  cases found : registry.lookup place path with
  | error e => exact Ensures.bind (P := fun _ => False) (Ensures.of_throw (unfound e found)) nofun
  | ok provider =>
    refine Ensures.bind (P := (· = provider)) (Ensures.of_pure rfl) ?_
    rintro _ rfl
    refine Ensures.bind (Ensures.of_draw _) ?_
    rintro result ⟨s, given⟩
    cases result with
    | error e => exact Ensures.of_throw (fails _ found s e given)
    | ok v =>
      exact Ensures.bind (P := fun _ => True) (Ensures.of_countCall trivial)
        fun _ _ => Ensures.of_pure (answers _ found s v given)

end Template

end MockData
