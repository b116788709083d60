import MockData.Proofs.Provider.Listing
import MockData.Provider.Builtin

/-!
# The built-in registry

A provider stays in the registry as long as no later path lies in front of its own or behind it. The
paths of the built-in providers all have two names and no two are the same, so each of them is found
under its path: `resolve_iff_mem`.
-/

namespace MockData

namespace Registry

variable {α : Type} {calls : List (String × α)} {path : String} {p : α}

/-- Neither path lies in front of the other. -/
def Apart (path other : String) : Prop :=
  ¬ segments path <+: segments other ∧ ¬ segments other <+: segments path

theorem foldl_add_keeps {m : NameMap α} (here : m (segments path) = some p)
    (apart : ∀ call ∈ calls, Apart path call.1) :
    calls.foldl (fun m call => m.add (segments call.1) call.2) m (segments path) = some p := by
  induction calls generalizing m with
  | nil => exact here
  | cons call rest ih =>
    obtain ⟨first, others⟩ := List.forall_mem_cons.mp apart
    apply ih _ others
    rw [NameMap.add_eq_some_iff]
    exact .inr ⟨first.1, first.2, here⟩

theorem foldl_add_of_mem (m : NameMap α) (apart : calls.Pairwise fun c d => Apart c.1 d.1)
    (member : (path, p) ∈ calls) :
    calls.foldl (fun m call => m.add (segments call.1) call.2) m (segments path) = some p := by
  induction calls generalizing m with
  | nil => exact nomatch member
  | cons call rest ih =>
    obtain ⟨first, others⟩ := List.pairwise_cons.mp apart
    rcases List.mem_cons.mp member with rfl | later
    · apply foldl_add_keeps _ first
      rw [NameMap.add_eq_some_iff]
      exact .inl ⟨rfl, rfl⟩
    · exact ih _ others later

/-- Where all paths are apart every provider is found under its own. -/
theorem resolve_of_apart (apart : calls.Pairwise fun c d => Apart c.1 d.1)
    (member : (path, p) ∈ calls) : (ofCalls calls).resolve path = .ok p := by
  rw [(represents_ofCalls calls).resolve_ok_iff]
  exact foldl_add_of_mem .empty apart member

/-- Different paths with the same number of names are apart. -/
theorem apart_of_length {path other : String} (different : path ≠ other)
    (same : (segments path).length = (segments other).length) : Apart path other := by
  constructor
  · intro before
    exact different (segments_injective (before.eq_of_length same))
  · intro before
    exact different (segments_injective (before.eq_of_length same.symm)).symm

end Registry

namespace Builtin

open Registry

def paths : List String := (providers (σ := Script)).map Prod.fst

theorem paths_nodup : paths.Nodup := by decide +kernel

theorem length_segments : ∀ path ∈ paths, (segments path).length = 2 := by decide +kernel

variable {σ : Type} [RandomSource σ]

theorem map_fst_providers : (providers : List (String × Provider σ)).map Prod.fst = paths := rfl

theorem providers_apart :
    (providers : List (String × Provider σ)).Pairwise fun c d => Apart c.1 d.1 := by
  have distinct : ((providers : List (String × Provider σ)).map Prod.fst).Nodup := by
    rw [map_fst_providers]
    exact paths_nodup
  have two : ∀ entry ∈ (providers : List (String × Provider σ)),
      (segments entry.1).length = 2 := by
    intro entry member
    have listed := List.mem_map_of_mem (f := Prod.fst) member
    rw [map_fst_providers] at listed
    exact length_segments entry.1 listed
  refine List.Pairwise.imp_of_mem ?_ (List.pairwise_map.mp distinct)
  intro c d first second different
  exact apart_of_length different ((two c first).trans (two d second).symm)

theorem resolve_iff_mem {path : String} {p : Provider σ} :
    registry.resolve path = .ok p ↔ (path, p) ∈ providers := by
  change (ofCalls providers).resolve path = .ok p ↔ _
  constructor
  · exact mem_of_resolve providers
  · exact resolve_of_apart providers_apart

theorem resolve_of_composed {path : String} {p : Provider σ} (listed : (path, p) ∈ composed) :
    registry.resolve path = .ok p := resolve_iff_mem.mpr (List.mem_append_left _ listed)

/-- A composed provider is what its path leads to. -/
theorem eq_of_composed {path : String} {p q : Provider σ} (listed : (path, q) ∈ composed)
    (found : registry.resolve path = .ok p) : p = q :=
  Except.ok.inj (found.symm.trans (resolve_of_composed listed))

end Builtin

end MockData
