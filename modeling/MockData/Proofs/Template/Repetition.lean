import Mathlib.Algebra.Ring.Nat
import MockData.Proofs.Template.Directives
import MockData.Proofs.Template.Resolution
import MockData.Proofs.Template.Usage

/-!
# Repeated calls

Where a template leaves nothing to chance, a resolution that succeeds makes each call as often as the
elements around it are repeated: `resolve_makes`.
-/

namespace MockData

namespace Template

/-- Nothing in the directive is left to chance. -/
def Fixed : Template → Prop
  | .array _ (.range _ _) _ => False
  | .oneOf _ _ => False
  | .nullable _ _ _ => False
  | _ => True

mutual
/-- The paths of the calls of a template, each with the counts of the elements around it, the
outermost first. The number of elements in a range is not known and left out. -/
def nestedCalls : Template → List (String × List Nat)
  | .literal _ => []
  | .sequence items => nestedCallsItems items
  | .mapping entries => nestedCallsEntries entries
  | .faker _ path _ => [(path, [])]
  | .array _ (.fixed count) element =>
    (nestedCalls element).map fun call => (call.1, count.toNat :: call.2)
  | .array _ (.range _ _) element => nestedCalls element
  | .oneOf _ options => nestedCallsItems options
  | .nullable _ _ value => nestedCalls value
def nestedCallsItems : List Template → List (String × List Nat)
  | [] => []
  | t :: rest => nestedCalls t ++ nestedCallsItems rest
def nestedCallsEntries : List (String × Template) → List (String × List Nat)
  | [] => []
  | (_, t) :: rest => nestedCalls t ++ nestedCallsEntries rest
end

/-- How often the calls of a path are made: for each call the product of the counts around it. -/
def timesCalled (path : String) (calls : List (String × List Nat)) : Nat :=
  ((calls.filter fun call => call.1 = path).map fun call => call.2.prod).sum

theorem timesCalled_append (path : String) (calls more : List (String × List Nat)) :
    timesCalled path (calls ++ more) = timesCalled path calls + timesCalled path more := by
  simp [timesCalled]

theorem timesCalled_single (path called : String) :
    timesCalled path [(called, [])] = if path = called then 1 else 0 := by
  by_cases same : path = called
  · simp [timesCalled, same]
  · simp [timesCalled, same, Ne.symm same]

theorem timesCalled_repeated (path : String) (n : Nat) (calls : List (String × List Nat)) :
    timesCalled path (calls.map fun call => (call.1, n :: call.2)) = n * timesCalled path calls := by
  induction calls with
  | nil => rfl
  | cons call rest ih =>
    have one : timesCalled path [(call.1, n :: call.2)] = n * timesCalled path [call] := by
      by_cases same : call.1 = path <;> simp [timesCalled, same]
    rw [List.map_cons, ← List.singleton_append, timesCalled_append, one, ih,
      ← List.singleton_append (l := rest), timesCalled_append, Nat.mul_add]

end Template

namespace Resolution

variable {σ α β : Type}

/-- If the resolution succeeds, the path has been called `n` more times. -/
def Makes (path : String) (r : Resolution σ α) (n : Nat) : Prop :=
  ∀ p a q, r.run p = (.ok a, q) → q.usage.count path = p.usage.count path + n

namespace Makes

variable {path : String}

theorem of_pure (a : α) : Makes path (pure a : Resolution σ α) 0 := by
  intro p b q result
  cases result
  rfl

theorem of_draw (d : Draw σ α) : Makes path (draw d) 0 := by
  intro p b q result
  cases result
  rfl

theorem bind {r : Resolution σ α} {f : α → Resolution σ β} {n m : Nat} (first : Makes path r n)
    (next : ∀ a, Makes path (f a) m) : Makes path (r >>= f) (n + m) := by
  intro p b q result
  rw [run_bind] at result
  cases ran : r.run p with
  | mk outcome middle =>
    rw [ran] at result
    cases outcome with
    | error e => exact nomatch result
    | ok a =>
      have before := first p a middle ran
      have after := next a middle b q result
      rw [after, before, Nat.add_assoc]

theorem map {r : Resolution σ α} {n : Nat} (h : Makes path r n) (f : α → β) :
    Makes path (do return f (← r)) n := h.bind fun a => of_pure (f a)

theorem replicate {r : Resolution σ α} {n : Nat} (h : Makes path r n) (times : Nat) :
    Makes path (Resolution.replicate times r) (times * n) := by
  have loop (done : List α) : Makes path (replicate.loop r times done) (times * n) := by
    induction times generalizing done with
    | zero =>
      rw [Nat.zero_mul]
      exact of_pure done.reverse
    | succ times ih =>
      rw [Nat.succ_mul, Nat.add_comm _ n]
      exact h.bind fun a => ih (a :: done)
  exact loop []

end Makes

end Resolution

namespace Template

open Resolution

variable {σ : Type} (registry : Registry (Provider σ)) (context : RecordContext) (path : String)

theorem call_makes (place : Location) (called : String) (args : Option (List (String × Json))) :
    Makes path (call registry context place called args) (if path = called then 1 else 0) := by
  cases found : registry.lookup place called with
  | error e =>
    rw [call_missed found]
    exact fun p a q result => nomatch result
  | ok provider =>
    rw [call_found found, ← Nat.zero_add (ite _ _ _)]
    refine Makes.bind (Makes.of_draw _) fun answer => ?_
    cases answer with
    | error e => exact fun p a q result => nomatch result
    | ok value =>
      intro p a q result
      cases result
      exact Usage.count_add p.usage called path 1

variable [RandomSource σ]

mutual
theorem resolve_makes : ∀ t : Template, (∀ n ∈ t.directives, n.Fixed) →
    Makes path (t.resolve registry context) (timesCalled path t.nestedCalls)
  | .literal value, _ => by
    rw [resolve, nestedCalls]
    exact Makes.of_pure value
  | .sequence items, fixed => by
    rw [resolve, nestedCalls]
    exact (resolveItems_makes items fixed).map _
  | .mapping entries, fixed => by
    rw [resolve, nestedCalls]
    exact (resolveEntries_makes entries fixed).map _
  | .faker place called args, _ => by
    rw [resolve, nestedCalls, timesCalled_single]
    exact call_makes registry context path place called args
  | .array place (.fixed count) element, fixed => by
    rw [directives, List.forall_mem_cons] at fixed
    rw [resolve, nestedCalls, timesCalled_repeated, drawCardinality, pure_bind]
    exact ((resolve_makes element fixed.2).replicate count.toNat).map _
  | .array _ (.range _ _) _, fixed => False.elim (fixed _ List.mem_cons_self)
  | .oneOf _ _, fixed => False.elim (fixed _ List.mem_cons_self)
  | .nullable _ _ _, fixed => False.elim (fixed _ List.mem_cons_self)
theorem resolveItems_makes : ∀ items : List Template,
    (∀ n ∈ directivesItems items, n.Fixed) →
      Makes path (resolveItems registry context items)
        (timesCalled path (nestedCallsItems items))
  | [], _ => by
    rw [resolveItems, nestedCallsItems]
    exact Makes.of_pure []
  | t :: rest, fixed => by
    rw [directivesItems, List.forall_mem_append] at fixed
    rw [resolveItems, nestedCallsItems, timesCalled_append]
    exact (resolve_makes t fixed.1).bind fun v => (resolveItems_makes rest fixed.2).map _
theorem resolveEntries_makes : ∀ entries : List (String × Template),
    (∀ n ∈ directivesEntries entries, n.Fixed) →
      Makes path (resolveEntries registry context entries)
        (timesCalled path (nestedCallsEntries entries))
  | [], _ => by
    rw [resolveEntries, nestedCallsEntries]
    exact Makes.of_pure []
  | (key, t) :: rest, fixed => by
    rw [directivesEntries, List.forall_mem_append] at fixed
    rw [resolveEntries, nestedCallsEntries, timesCalled_append]
    exact (resolve_makes t fixed.1).bind fun v => (resolveEntries_makes rest fixed.2).map _
end

end Template

end MockData
