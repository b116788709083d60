import MockData.Proofs.Template.Closure

/-!
# Where resolutions fail

A template whose directives are sound fails only at one of its calls: where no provider is found, or
where the provider that is found fails.
-/

namespace MockData

namespace DirectiveError

def path? : DirectiveError → Option String
  | .missingProvider _ path _ => some path
  | .notCallable _ path => some path
  | .providerFailed _ path _ => some path
  | _ => none

def IsPathFault : DirectiveError → Prop
  | .missingProvider _ _ _ => True
  | .notCallable _ _ => True
  | _ => False

end DirectiveError

namespace ProviderError

theorem located_not_pathFault (e : ProviderError) (place : Location) (path : String) :
    ¬ (e.located place path).IsPathFault := by
  cases e <;> exact id

/-- A provider that fails leaves its path and its place; one that has nothing to draw from, its
place alone. -/
theorem located_eq (e : ProviderError) (place : Location) (path : String) :
    e.located place path = .providerFailed place path e.message ∨
      e = .emptyRange ∧ e.located place path = .emptyRange place := by
  cases e with
  | emptyRange => exact .inr ⟨rfl, rfl⟩
  | _ => exact .inl rfl

end ProviderError

namespace Registry

theorem lookup_error {α : Type} {r : Registry α} {place : Location} {path : String}
    {e : DirectiveError} (missed : r.lookup place path = .error e) :
    e.place = place ∧ e.path? = some path ∧ e.IsPathFault := by
  unfold lookup at missed
  split at missed
  · exact nomatch missed
  · cases missed
    exact ⟨rfl, rfl, trivial⟩
  · cases missed
    exact ⟨rfl, rfl, trivial⟩

end Registry

namespace Template

open Resolution

variable {σ : Type} (registry : Registry (Provider σ)) (context : RecordContext)

/-- How a call can fail: no provider is found, or the one that is found fails. -/
inductive CallFails (place : Location) (path : String) (args : Option (List (String × Json))) :
    DirectiveError → Prop where
  | missed {e : DirectiveError} (missed : registry.lookup place path = .error e) :
      CallFails place path args e
  | failed {provider : Provider σ} {source : σ} {e : ProviderError}
      (found : registry.lookup place path = .ok provider)
      (given : (provider context (args.map .object) source).1 = .error e) :
      CallFails place path args (e.located place path)

theorem ensures_callFails (place : Location) (path : String)
    (args : Option (List (String × Json))) :
    Ensures (call registry context place path args) (fun _ => True)
      (CallFails registry context place path args) :=
  ensures_call (fun _ missed => .missed missed) (fun _ _ _ _ _ => trivial)
    fun _ found _ _ given => .failed found given

variable [RandomSource σ]

/-- A sound template is resolved unless one of its calls fails. -/
theorem fails_of_resolve {t : Template} (sound : t.AllSound) :
    Ensures (t.resolve registry context) (fun _ => True) fun e =>
      ∃ place path args, .faker place path args ∈ t.directives ∧
        CallFails registry context place path args e := by
  refine resolve_closed (Ensures.closed _) t fun n member => ?_
  have fine := sound n member
  cases n with
  | faker place path args =>
    exact (ensures_callFails registry context place path args).weaken (fun _ h => h)
      fun e fails => ⟨place, path, args, member, fails⟩
  | _ => exact fun unsound => absurd fine unsound

end Template

end MockData
