import MockData.Proofs.Provider.Notes
import MockData.Proofs.Template.InStep
import MockData.Proofs.Template.Resolution
import MockData.Proofs.Template.Usage

/-!
# Counted calls

The calls that a resolution counts are those that providers answer. `resolve_tallies` compares a
resolution with one whose providers note down their answers: both go the same way, whatever was
counted or noted before, and what the one counts is what is noted in the other.
-/

namespace MockData

namespace Resolution

variable {σ : Type}

/-- The two resolutions go the same way whatever was counted and noted before. The calls that are
answered on it are counted on both sides and noted on the second. -/
def Tallies {α : Type} (r : Resolution σ α) (r' : Resolution (Noted σ) α) : Prop :=
  ∀ s, ∃ outcome source calls,
    (∀ u, r.run ⟨s, u⟩ = (outcome, ⟨source, u.addAll calls⟩)) ∧
    ∀ u notes, r'.run ⟨⟨s, notes⟩, u⟩ =
      (outcome, ⟨⟨source, notes ++ calls.map Registry.segments⟩, u.addAll calls⟩)

namespace Tallies

variable {α β : Type}

theorem of_quiet {r : Resolution σ α} {r' : Resolution (Noted σ) α}
    (quiet : ∀ s, ∃ outcome source, (∀ u, r.run ⟨s, u⟩ = (outcome, ⟨source, u⟩)) ∧
      ∀ u notes, r'.run ⟨⟨s, notes⟩, u⟩ = (outcome, ⟨⟨source, notes⟩, u⟩)) : Tallies r r' := by
  intro s
  obtain ⟨outcome, source, plain, noted⟩ := quiet s
  refine ⟨outcome, source, [], plain, fun u notes => ?_⟩
  rw [noted, List.map_nil, List.append_nil]
  rfl

theorem of_draw {d : Draw σ α} {d' : Draw (Noted σ) α} (lifted : Noted.lift d = d') :
    Tallies (draw d) (draw d') := by
  subst lifted
  exact of_quiet fun s => ⟨.ok (d s).1, (d s).2, fun _ => rfl, fun _ _ => rfl⟩

theorem bind {r : Resolution σ α} {r' : Resolution (Noted σ) α} {f : α → Resolution σ β}
    {f' : α → Resolution (Noted σ) β} (h : Tallies r r') (next : ∀ a, Tallies (f a) (f' a)) :
    Tallies (r >>= f) (r' >>= f') := by
  intro s
  obtain ⟨outcome, source, calls, plain, noted⟩ := h s
  cases outcome with
  | error e =>
    refine ⟨.error e, source, calls, fun u => ?_, fun u notes => ?_⟩
    · rw [run_bind, plain]
    · rw [run_bind, noted]
  | ok a =>
    obtain ⟨outcome, last, more, plainly, notedly⟩ := next a source
    refine ⟨outcome, last, calls ++ more, fun u => ?_, fun u notes => ?_⟩
    · rw [run_bind, plain, Usage.addAll_append]
      exact plainly _
    · rw [run_bind, noted, Usage.addAll_append, List.map_append, ← List.append_assoc]
      exact notedly _ _

theorem inStep [RandomSource σ] : InStep (@Tallies σ) where
  of_pure a := of_quiet fun s => ⟨.ok a, s, fun _ => rfl, fun _ _ => rfl⟩
  of_throw e := of_quiet fun s => ⟨.error e, s, fun _ => rfl, fun _ _ => rfl⟩
  index n := of_draw (Noted.lift_index n)
  between min max := of_draw (Noted.lift_between64 min max)
  chance p := of_draw (Noted.lift_chance p)
  bind := bind

end Tallies

end Resolution

namespace Template

open Resolution

variable {σ : Type} (registry : Registry (Provider σ)) (context : RecordContext)

theorem call_tallies (place : Location) (path : String) (args : Option (List (String × Json))) :
    Tallies (call registry context place path args)
      (call registry.noted context place path args) := by
  have found' := registry.lookup_noted place path
  cases found : registry.lookup place path with
  | error e =>
    rw [found] at found'
    rw [call_missed found, call_missed found']
    exact Tallies.of_quiet fun s => ⟨.error e, s, fun _ => rfl, fun _ _ => rfl⟩
  | ok provider =>
    rw [found] at found'
    rw [call_found found, call_found found']
    intro s
    cases given : provider context (args.map .object) s with
    | mk result source =>
      cases result with
      | ok value =>
        refine ⟨.ok value, source, [path], fun u => ?_, fun u notes => ?_⟩
        · rw [run_bind, run_draw, given]
          rfl
        · rw [run_bind, run_draw, Provider.noted_ok given]
          rfl
      | error e =>
        refine ⟨.error (e.located place path), source, [], fun u => ?_, fun u notes => ?_⟩
        · rw [run_bind, run_draw, given]
          rfl
        · rw [run_bind, run_draw, Provider.noted_error given, List.map_nil, List.append_nil]
          rfl

theorem resolve_tallies [RandomSource σ] (t : Template) :
    Tallies (t.resolve registry context) (t.resolve registry.noted context) := by
  refine resolve_inStep Tallies.inStep t fun n _ => ?_
  cases n with
  | faker place path args => exact call_tallies registry context place path args
  | _ => trivial

end Template

end MockData
