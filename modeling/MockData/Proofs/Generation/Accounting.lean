import Mathlib.Data.List.Count
import MockData.Proofs.Generation.Independence
import MockData.Proofs.Template.Repetition

/-!
# The usage of providers is exact

A resolution adds to the usage the calls that its providers answer, whatever was counted before, and
no others. Where nothing is left to chance their number is known beforehand, for a record and for a
whole generation: `usage_exact`.
-/

namespace MockData

namespace Generation

open Template

theorem generateRecords_eq_map {m : Type → Type} [Monad m] [LawfulMonad m] [Surroundings m]
    (registry : Registry (Provider ChaCha8)) (options : GenerateOptions) (document : Document) :
    generateRecords (m := m) registry options document =
      (records registry · document) <$> (runSeed options >>= runContext options) := by
  simp [generateRecords, generate]

section

variable {registry : Registry (Provider ChaCha8)} {run : RunContext} {t : Template}

theorem count_solitary (fixed : ∀ n ∈ t.directives, n.Fixed) {i : Nat} {v : Json}
    (value : (solitary registry run t i).1 = .ok v) (path : String) :
    (solitary registry run t i).2.count path = timesCalled path t.nestedCalls := by
  let index := UInt64.ofNat i
  let start : Progress ChaCha8 := ⟨ChaCha8.ofSeed (recordSeed run.seed index), []⟩
  have made := resolve_makes registry (run.ofRecord index) path t fixed start v _ (Prod.ext value rfl)
  rw [Usage.count_nil, Nat.zero_add] at made
  exact made

theorem callsTo_fixed (fixed : ∀ n ∈ t.directives, n.Fixed) {count : Nat}
    (all : ∀ i < count, ∃ v, (solitary registry run t i).1 = .ok v) (path : String) :
    callsTo (solitary registry run t) count path = count * timesCalled path t.nestedCalls := by
  induction count with
  | zero => rw [callsTo, Nat.zero_mul]
  | succ count ih =>
    obtain ⟨v, value⟩ := all count (Nat.lt_succ_self count)
    have before := ih fun i inside => all i (Nat.lt_succ_of_lt inside)
    rw [callsTo, before, count_solitary fixed value, Nat.succ_mul]

end

/-- Whatever was counted before, a resolution has the same outcome, leaves the same source and adds
the same calls, which are the answers that the providers note down on the way, whether it succeeds
or fails. If a template without chance succeeds, every call in it has been made as often as the
counts around it say, and in a whole generation as often again for every record. -/
theorem usage_exact {m : Type → Type} [Monad m] [LawfulMonad m] [Surroundings m] {σ : Type}
    [RandomSource σ] (registry : Registry (Provider σ)) (context : RecordContext) (t : Template)
    (s : σ) :
    let after (u : Usage) := (t.resolve registry context).run ⟨s, u⟩
    let alone := after []
    let noted := (t.resolve registry.noted context).run ⟨⟨s, []⟩, []⟩
    let answers (path : String) := noted.2.source.answers.count (Registry.segments path)
    let listed (n : Nat) := if n = 0 then none else some n
    (∀ u, (after u).1 = alone.1 ∧ (after u).2.source = alone.2.source ∧
      ∀ path, Dictionary.get? (after u).2.usage path =
        (Dictionary.get? u path).merge (· + ·) (Dictionary.get? alone.2.usage path)) ∧
    (noted.1 = alone.1 ∧ noted.2.source.source = alone.2.source ∧
      ∀ path, Dictionary.get? alone.2.usage path = listed (answers path)) ∧
    ((∀ n ∈ t.directives, n.Fixed) → ∀ v, alone.1 = .ok v →
      ∀ path, Dictionary.get? alone.2.usage path = listed (timesCalled path t.nestedCalls)) ∧
    ∀ (registry : Registry (Provider ChaCha8)) (options : GenerateOptions) (document : Document),
      (∀ n ∈ document.template.directives, n.Fixed) →
      generateRecords (m := m) registry options document =
        (records registry · document) <$> (runSeed options >>= runContext options) ∧
      ∀ run g, records registry run document = .ok g → ∀ path, Dictionary.get? g.usage path =
        listed (document.count.toNat * timesCalled path document.template.nestedCalls) := by
  intro after alone noted answers listed
  -- The calls that are answered are the same for every usage; all counts are counts of this list.
  obtain ⟨outcome, source, calls, plain, notes⟩ := resolve_tallies registry context t s
  have ends (u : Usage) : after u = (outcome, ⟨source, u.addAll calls⟩) := plain u
  have counted (path : String) :
      Dictionary.get? alone.2.usage path = listed (calls.count path) := by
    rw [show alone = _ from ends [], Usage.get?_addAll, Usage.count_nil, Nat.zero_add]
    rfl
  refine ⟨fun u => ?_, ⟨?_, ?_, fun path => ?_⟩, fun fixed v value path => ?_, ?_⟩
  · rw [show alone = _ from ends [], ends u]
    exact ⟨rfl, rfl, Usage.get?_addAll_eq_merge u calls⟩
  · rw [show alone = _ from ends [], show noted = _ from notes [] []]
  · rw [show alone = _ from ends [], show noted = _ from notes [] []]
  · have same : answers path = calls.count path := by
      have injective : Function.Injective Registry.segments :=
        fun _ _ => Registry.segments_injective
      have written : noted.2.source.answers = calls.map Registry.segments := by
        rw [show noted = _ from notes [] []]
        rfl
      rw [show answers path = _ from congrArg (List.count (Registry.segments path)) written]
      exact List.count_map_of_injective calls _ injective path
    rw [counted, same]
  · have made := resolve_makes registry context path t fixed ⟨s, []⟩ v _ (Prod.ext value rfl)
    rw [show ((t.resolve registry context).run ⟨s, []⟩) = _ from ends [], Usage.count_addAll,
      Usage.count_nil, Nat.zero_add, Nat.zero_add] at made
    rw [counted, made]
  · intro registry options document fixed
    refine ⟨generateRecords_eq_map registry options document, fun run g ok path => ?_⟩
    have combined := records_combined registry run document
    rw [combined.usage ok, callsTo_fixed fixed (combined.ok_iff.mp ⟨g, ok⟩)]

theorem usage_exact_grid :
    let registry : Registry (Provider ChaCha8) :=
      Registry.empty.register "grid.cell" fun context _ => return .ok (.ofUInt64 context.index)
    let place := Location.atRoot "/template"
    let cell : Template := .faker place "grid.cell" none
    let grid : Template := .array place (.fixed 2) (.array place (.fixed 3) cell)
    let empty : Template := .array place (.fixed 0) (.faker place "grid.none" none)
    let document : Document :=
      ⟨5, "grids.json", .mapping [("first", cell), ("grid", grid), ("none", empty)], .null⟩
    let run : RunContext := ⟨7, .enUS, .midnight 0⟩
    (∀ n ∈ document.template.directives, n.Fixed) ∧
      ∃ g, records registry run document = .ok g ∧
        Dictionary.get? g.usage "grid.cell" = some 35 ∧
        Dictionary.get? g.usage "grid.none" = none := by
  intro registry place cell grid empty document run
  have fixed : ∀ n ∈ document.template.directives, n.Fixed := by
    simp [document, cell, grid, empty, directives, directivesEntries, Fixed]
  have succeeds (i : Nat) : ∃ v, (solitary registry run document.template i).1 = .ok v := by
    exact ⟨_, rfl⟩
  obtain ⟨g, ok⟩ := (records_combined registry run document).ok_iff.mpr fun i _ => succeeds i
  obtain ⟨_, _, _, whole⟩ := usage_exact (m := StateM Machine) registry (run.ofRecord 0)
    document.template (ChaCha8.ofSeed 0)
  obtain ⟨_, counts⟩ := whole registry .standard document fixed
  refine ⟨fixed, g, ok, ?_, ?_⟩
  · exact (counts run g ok "grid.cell").trans (by decide)
  · exact (counts run g ok "grid.none").trans (by decide)

end Generation

end MockData
