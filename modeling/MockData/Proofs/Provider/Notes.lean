import MockData.Proofs.Provider.Listing
import MockData.Template.Resolve

/-!
# Providers that note down their answers

`Registry.noted` is a registry in which every provider notes down its names whenever it answers a
call. The notes stand beside the random source. Neither what is drawn nor what a provider gives
depends on them, and a path leads to the same provider as before: `lookup_noted`.
-/

namespace MockData

/-- A random source and the names of the providers that have answered so far, in order. -/
structure Noted (σ : Type) where
  source : σ
  answers : List (List String)

namespace Noted

variable {σ : Type}

def lift {α : Type} (d : Draw σ α) : Draw (Noted σ) α := fun s =>
  ((d s.source).1, ⟨(d s.source).2, s.answers⟩)

instance [RandomSource σ] : RandomSource (Noted σ) where
  next32 := lift RandomSource.next32
  next64 := lift RandomSource.next64
  bytes n := lift (RandomSource.bytes n)

theorem lift_bind {α β : Type} (d : Draw σ α) (f : α → Draw σ β) :
    lift (d >>= f) = lift d >>= fun a => lift (f a) := rfl

theorem lift_ite {α : Type} (c : Prop) [Decidable c] (d e : Draw σ α) :
    lift (if c then d else e) = if c then lift d else lift e := by
  split <;> rfl

theorem lift_belowWith (modulus n : Nat) (word : Draw σ Nat) :
    lift (Draw.belowWith modulus word n) = Draw.belowWith modulus (lift word) n := by
  unfold Draw.belowWith
  rw [lift_bind]
  congr
  funext first
  rw [lift_ite]
  congr
  dsimp only
  rw [lift_ite]
  rfl

variable [RandomSource σ]

theorem lift_index (n : Nat) : lift (Draw.index n : Draw σ Nat) = Draw.index n := by
  rw [Draw.index, lift_ite, Draw.below32, Draw.below64, lift_belowWith, lift_belowWith]
  rfl

theorem lift_between64 (min max : Nat) :
    lift (Draw.between64 min max : Draw σ Nat) = Draw.between64 min max := by
  unfold Draw.between64 Draw.below64
  rw [lift_bind, lift_belowWith]
  rfl

theorem lift_chance (p : Binary64) : lift (Draw.chance p : Draw σ Bool) = Draw.chance p := rfl

end Noted

namespace Provider

variable {σ : Type}

/-- The provider, which notes down its names when it answers. -/
def noted (names : List String) (p : Provider σ) : Provider (Noted σ) := fun context args s =>
  match p context args s.source with
  | (.ok value, source) => (.ok value, ⟨source, s.answers ++ [names]⟩)
  | (.error e, source) => (.error e, ⟨source, s.answers⟩)

variable {p : Provider σ} {context : RecordContext} {args : Option Json} {s source : σ}

theorem noted_ok {value : Json} (given : p context args s = (.ok value, source))
    (names : List String) (notes : List (List String)) :
    p.noted names context args ⟨s, notes⟩ = (.ok value, ⟨source, notes ++ [names]⟩) := by
  unfold noted
  rw [given]

theorem noted_error {e : ProviderError} (given : p context args s = (.error e, source))
    (names : List String) (notes : List (List String)) :
    p.noted names context args ⟨s, notes⟩ = (.error e, ⟨source, notes⟩) := by
  unfold noted
  rw [given]

end Provider

namespace RegistryEntry

variable {α β : Type}

mutual
def mapNames (f : List String → α → β) (names : List String) : RegistryEntry α → RegistryEntry β
  | .provider p => .provider (f names p)
  | .space entries => .space (mapNamesIn f names entries)
def mapNamesIn (f : List String → α → β) (names : List String) :
    List (String × RegistryEntry α) → List (String × RegistryEntry β)
  | [] => []
  | (name, entry) :: rest =>
    (name, mapNames f (names ++ [name]) entry) :: mapNamesIn f names rest
end

theorem get?_mapNamesIn (f : List String → α → β) (names : List String)
    (entries : Dictionary (RegistryEntry α)) (name : String) :
    Dictionary.get? (mapNamesIn f names entries) name =
      (Dictionary.get? entries name).map (mapNames f (names ++ [name])) := by
  induction entries with
  | nil => rfl
  | cons first rest ih =>
    obtain ⟨other, entry⟩ := first
    rw [mapNamesIn, Dictionary.get?_cons, Dictionary.get?_cons, ih]
    by_cases same : name = other
    · subst same
      simp
    · simp [same]

theorem resolve_mapNamesIn (f : List String → α → β) (names : List String)
    (entries : Dictionary (RegistryEntry α)) (path : List String) :
    resolve (mapNamesIn f names entries) path = (resolve entries path).map (f (names ++ path)) := by
  induction path generalizing names entries with
  | nil => rfl
  | cons name rest ih =>
    rw [resolve, resolve, get?_mapNamesIn]
    cases found : Dictionary.get? entries name with
    | none => rfl
    | some entry =>
      cases entry with
      | space below =>
        simp only [Option.map_some, mapNames, ih, List.append_assoc, List.singleton_append]
      | provider p =>
        cases rest with
        | nil => simp [mapNames, Except.map]
        | cons next others => simp [mapNames, Except.map]

end RegistryEntry

namespace Registry

variable {σ : Type}

/-- The registry in which every provider notes down when it answers. -/
def noted (r : Registry (Provider σ)) : Registry (Provider (Noted σ)) :=
  ⟨RegistryEntry.mapNamesIn Provider.noted [] r.entries⟩

theorem resolve_noted (r : Registry (Provider σ)) (path : String) :
    r.noted.resolve path = (r.resolve path).map (Provider.noted (segments path)) :=
  RegistryEntry.resolve_mapNamesIn _ _ _ _

theorem lookup_noted (r : Registry (Provider σ)) (place : Location) (path : String) :
    r.noted.lookup place path = (r.lookup place path).map (Provider.noted (segments path)) := by
  rw [lookup, lookup, resolve_noted]
  cases r.resolve path with
  | ok p => rfl
  | error e => cases e <;> rfl

end Registry

end MockData
