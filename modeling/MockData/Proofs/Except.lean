import Mathlib.Data.List.Forall2

/-!
# Results of readers

When a computation that may fail gives a value, and when it fails, put together from smaller ones.
-/

namespace MockData

variable {ε α β : Type}

theorem bind_ok {x : Except ε α} {f : α → Except ε β} {b : β} :
    x >>= f = .ok b ↔ ∃ a, x = .ok a ∧ f a = .ok b := by
  cases x <;> simp [bind, Except.bind]

theorem pure_ok {a b : α} : (pure a : Except ε α) = .ok b ↔ a = b := by
  simp [pure, Except.pure]

theorem map_ok {x : Except ε α} {f : α → β} {b : β} :
    f <$> x = .ok b ↔ ∃ a, x = .ok a ∧ f a = b := by
  cases x <;> simp [Functor.map, Except.map]

/-- What is made of a result does not change whether there is one. -/
theorem exists_bind_pure {x : Except ε α} {f : α → β} :
    (∃ b, (x >>= fun a => pure (f a)) = .ok b) ↔ ∃ a, x = .ok a := by
  cases x <;> simp [bind, Except.bind, pure, Except.pure]

theorem exists_map {x : Except ε α} {f : α → β} :
    (∃ b, f <$> x = .ok b) ↔ ∃ a, x = .ok a := by
  cases x <;> simp [Functor.map, Except.map]

/-! ### Failures -/

variable {e : ε}

theorem bind_error {x : Except ε α} {f : α → Except ε β} :
    x >>= f = .error e ↔ x = .error e ∨ ∃ a, x = .ok a ∧ f a = .error e := by
  cases x <;> simp [bind, Except.bind]

theorem map_error {x : Except ε α} {f : α → β} : f <$> x = .error e ↔ x = .error e := by
  cases x <;> simp [Functor.map, Except.map]

/-! ### Lists -/

variable {f : α → Except ε β} {xs : List α}

theorem mapM_ok {ys : List β} :
    xs.mapM f = .ok ys ↔ List.Forall₂ (fun x y => f x = .ok y) xs ys := by
  induction xs generalizing ys with
  | nil =>
    rw [List.mapM_nil, pure_ok, List.forall₂_nil_left_iff]
    exact eq_comm
  | cons x rest ih =>
    rw [List.mapM_cons, bind_ok, List.forall₂_cons_left_iff]
    constructor
    · rintro ⟨y, one, others⟩
      obtain ⟨ys, all, result⟩ := bind_ok.mp others
      exact ⟨y, ys, one, ih.mp all, (pure_ok.mp result).symm⟩
    · rintro ⟨y, ys, one, all, rfl⟩
      exact ⟨y, one, bind_ok.mpr ⟨ys, ih.mpr all, rfl⟩⟩

/-- The failure of a list is that of one of its elements. -/
theorem mapM_error (failed : xs.mapM f = .error e) : ∃ x ∈ xs, f x = .error e := by
  induction xs with
  | nil => exact nomatch failed
  | cons x rest ih =>
    rw [List.mapM_cons] at failed
    rcases bind_error.mp failed with first | ⟨y, _, failed⟩
    · exact ⟨x, List.mem_cons_self, first⟩
    · rcases bind_error.mp failed with later | ⟨ys, _, result⟩
      · obtain ⟨x, member, failed⟩ := ih later
        exact ⟨x, List.mem_cons_of_mem _ member, failed⟩
      · exact nomatch result

/-! ### Two results side by side -/

section

variable {ε δ α β γ ζ : Type}

inductive Corresponds (E : ε → δ → Prop) (R : α → β → Prop) : Except ε α → Except δ β → Prop where
  | ok {a : α} {b : β} (h : R a b) : Corresponds E R (.ok a) (.ok b)
  | error {e : ε} {d : δ} (h : E e d) : Corresponds E R (.error e) (.error d)

namespace Corresponds

variable {E : ε → δ → Prop} {R : α → β → Prop} {S : γ → ζ → Prop}

theorem of_same {E : ε → ε → Prop} {R : α → α → Prop} (failures : ∀ e, E e e)
    (values : ∀ a, R a a) (x : Except ε α) : Corresponds E R x x := by
  cases x with
  | ok a => exact .ok (values a)
  | error e => exact .error (failures e)

theorem bind {x : Except ε α} {y : Except δ β} {f : α → Except ε γ} {g : β → Except δ ζ}
    (h : Corresponds E R x y) (next : ∀ a b, R a b → Corresponds E S (f a) (g b)) :
    Corresponds E S (x >>= f) (y >>= g) := by
  cases h with
  | ok h => exact next _ _ h
  | error h => exact .error h

/-- After the same first step only what follows counts. -/
theorem bind_same (x : Except ε α) {f : α → Except ε γ} {g : α → Except ε ζ}
    (next : ∀ a, Corresponds Eq S (f a) (g a)) : Corresponds Eq S (x >>= f) (x >>= g) := by
  cases x with
  | ok a => exact next a
  | error e => exact .error rfl

theorem map {x : Except ε α} {y : Except δ β} {f : α → γ} {g : β → ζ} (h : Corresponds E R x y)
    (next : ∀ a b, R a b → S (f a) (g b)) : Corresponds E S (f <$> x) (g <$> y) := by
  cases h with
  | ok h => exact .ok (next _ _ h)
  | error h => exact .error h

theorem mapM {P : γ → ζ → Prop} {f : γ → Except ε α} {g : ζ → Except δ β} {xs : List γ}
    {ys : List ζ} (each : List.Forall₂ P xs ys) (step : ∀ x y, P x y → Corresponds E R (f x) (g y)) :
    Corresponds E (List.Forall₂ R) (xs.mapM f) (ys.mapM g) := by
  induction each with
  | nil => exact .ok .nil
  | cons first _ ih =>
    rw [List.mapM_cons, List.mapM_cons]
    refine (step _ _ first).bind fun a b h => ih.bind fun as bs hs => ?_
    exact .ok (.cons h hs)

end Corresponds

end

end MockData
