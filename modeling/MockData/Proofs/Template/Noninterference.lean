import MockData.Proofs.Provider.ContextUse
import MockData.Proofs.Provider.Listing
import MockData.Proofs.Template.InStep
import MockData.Proofs.Template.Resolution
import MockData.Random.ChaCha8

/-!
# Records that do not interfere

With the built-in providers, a template is resolved alike for two records that agree on what its
calls use: `resolve_congr`. Without a sequence the index does not count, without a call of the
catalog the locale does not, and where dates have a reference time of their own, that of the record
does not: `resolve_noninterference`.
-/

namespace MockData

variable {σ : Type} [RandomSource σ]

theorem Builtin.usesAgreed_of_lookup {place : Location} {path : String} {p : Provider σ}
    (found : Builtin.registry.lookup place path = .ok p) : UsesAgreed (path, p) := by
  have resolved : (Registry.ofCalls providers).resolve path = .ok p := Registry.lookup_ok.mp found
  exact usesAgreed_providers _ (Registry.mem_of_resolve providers resolved)

theorem Resolution.eq_inStep : InStep fun {α} (r r' : Resolution σ α) => r = r' where
  of_pure _ := rfl
  of_throw _ := rfl
  index _ := rfl
  between _ _ := rfl
  chance _ := rfl
  bind first next := by rw [first, funext next]

namespace Template

open Builtin

theorem call_congr {path : String} {args : Option (List (String × Json))} {c d : RecordContext}
    (agree : Agree σ path args c d) (place : Location) :
    call (σ := σ) registry c place path args = call registry d place path args := by
  cases found : (registry : Registry (Provider σ)).lookup place path with
  | error e => rw [call_missed found, call_missed found]
  | ok provider =>
    have same : provider c (args.map .object) = provider d (args.map .object) :=
      usesAgreed_of_lookup found args c d agree
    rw [call_found found, call_found found, same]

/-- Two records that agree on what the calls of a template use do not differ in anything: not in the
outcome, not in the calls that are counted, and not in what is drawn. -/
theorem resolve_congr {t : Template} {c d : RecordContext}
    (agree : ∀ place path args, .faker place path args ∈ t.directives → Agree σ path args c d) :
    t.resolve (σ := σ) registry c = t.resolve registry d := by
  refine resolve_inStep Resolution.eq_inStep t fun n member => ?_
  cases n with
  | faker place path args => exact call_congr (agree place path args member) place
  | _ => trivial

/-- A resolution with the built-in providers does not depend on the index of the record if no
sequence is called, nor on the locale if nothing of the catalog is called, nor on the reference time
of the record if all dates around a reference time are given one. Passwords are drawn alike in every
locale. -/
theorem resolve_noninterference (t : Template) (c : RecordContext) (p : Progress σ) :
    let calls (path : String) (args : Option (List (String × Json))) :=
      ∃ place, .faker place path args ∈ t.directives
    let outcome (c : RecordContext) := (t.resolve registry c).run p
    ((∀ path args, calls path args → path ≠ "number.sequence") →
      ∀ index, outcome { c with index := index } = outcome c) ∧
    ((∀ path args, calls path args → path ∉ Catalog.paths σ) →
      ∀ locale, outcome { c with locale := locale } = outcome c) ∧
    ((∀ path args, calls path args → path ∈ Dates.relativePaths → Dates.dated args) →
      ∀ reference, outcome { c with reference := reference } = outcome c) := by
  intro calls outcome
  have alike (c d : RecordContext) (agree : ∀ path args, calls path args → Agree σ path args c d) :
      outcome c = outcome d := by
    have same : t.resolve registry c = t.resolve registry d :=
      resolve_congr fun place path args member => agree path args ⟨place, member⟩
    exact congrArg (fun r : Resolution σ Json => r.run p) same
  refine ⟨fun others index => ?_, fun others locale => ?_, fun dated reference => ?_⟩
  · refine alike _ c fun path args called => ⟨fun same => ?_, fun _ => rfl, fun _ _ => rfl⟩
    exact absurd same (others path args called)
  · refine alike _ c fun path args called => ⟨fun _ => rfl, fun listed => ?_, fun _ _ => rfl⟩
    exact absurd listed (others path args called)
  · refine alike _ c fun path args called => ⟨fun _ => rfl, fun _ => rfl, fun listed undated => ?_⟩
    rw [dated path args called listed] at undated
    exact nomatch undated

theorem resolve_noninterference_dated :
    let place := Location.atRoot "/template"
    let dated : List (String × Json) := [("refDate", .string "2024-01-01T00:00:00Z")]
    let t : Template := .array place (.range 1 3)
      (.sequence [.faker place "number.int" none, .faker place "date.past" (some dated)])
    let start : Progress ChaCha8 := ⟨ChaCha8.ofSeed 5, []⟩
    let outcome (c : RecordContext) := (t.resolve registry c).run start
    outcome ⟨7, .ptBR, .midnight 700000⟩ = outcome ⟨0, .enUS, .midnight 0⟩ := by
  intro place dated t start outcome
  have called (path : String) (args : Option (List (String × Json)))
      (call : ∃ place, .faker place path args ∈ t.directives) :
      path = "number.int" ∧ args = none ∨ path = "date.past" ∧ args = some dated := by
    simpa [t, directives, directivesItems, exists_or] using call
  obtain ⟨index, _, _⟩ := resolve_noninterference t ⟨0, .enUS, .midnight 0⟩ start
  obtain ⟨_, locale, _⟩ := resolve_noninterference t ⟨7, .enUS, .midnight 0⟩ start
  obtain ⟨_, _, reference⟩ := resolve_noninterference t ⟨7, .ptBR, .midnight 0⟩ start
  refine (reference ?_ (.midnight 700000)).trans ((locale ?_ .ptBR).trans (index ?_ 7))
  · intro path args call _
    rcases called path args call with ⟨rfl, rfl⟩ | ⟨rfl, rfl⟩
    · contradiction
    · rfl
  · intro path args call
    rcases called path args call with ⟨rfl, -⟩ | ⟨rfl, -⟩ <;> decide
  · intro path args call
    rcases called path args call with ⟨rfl, -⟩ | ⟨rfl, -⟩ <;> decide

end Template

end MockData
