import MockData.Proofs.Random.Draws
import MockData.Proofs.Template.Resolution

/-!
# Equations between directives

A directive that leaves nothing open is as good as another template: a fixed number of elements is a
list of copies, and where bounds are equal, one option is given or a probability is zero or one, all
that remains of the directive is the word that it draws. `resolve_laws` has the equations, for
values, failures, calls and the source alike.
-/

namespace MockData

def Progress.after {σ α : Type} (p : Progress σ) (d : Draw σ α) : Progress σ :=
  { p with source := (d p.source).2 }

namespace Resolution

variable {σ α β : Type}

/-- A draw whose outcome is known leaves only what is done with it. -/
theorem run_draw_bind {d : Draw σ α} {p : Progress σ} {a : α} (drawn : (d p.source).1 = a)
    (f : α → Resolution σ β) : (draw d >>= f).run p = (f a).run (p.after d) := by
  rw [run_bind, run_draw, drawn]
  rfl

theorem loop_eq (r : Resolution σ α) (n : Nat) (done : List α) :
    replicate.loop r n done = do
      let more ← replicate n r
      return done.reverse ++ more := by
  unfold replicate
  induction n generalizing done with
  | zero => simp [replicate.loop]
  | succ n ih =>
    rw [replicate.loop, replicate.loop, bind_assoc]
    congr 1
    funext a
    rw [ih (a :: done), ih [a], bind_assoc]
    simp

theorem replicate_succ (r : Resolution σ α) (n : Nat) :
    replicate (n + 1) r = do
      let a ← r
      let more ← replicate n r
      return a :: more := by
  have step : replicate (n + 1) r = r >>= fun a => replicate.loop r n [a] := rfl
  rw [step]
  congr 1
  funext a
  rw [loop_eq]
  rfl

end Resolution

namespace Template

open Resolution

variable {σ : Type} [RandomSource σ] (registry : Registry (Provider σ)) (context : RecordContext)

/-- Elements that are repeated are resolved like as many copies in a list. -/
theorem resolveItems_replicate (n : Nat) (t : Template) :
    resolveItems registry context (List.replicate n t) =
      Resolution.replicate n (t.resolve registry context) := by
  induction n with
  | zero =>
    rw [List.replicate_zero, resolveItems]
    rfl
  | succ n ih => rw [List.replicate_succ, resolveItems, ih, replicate_succ]

theorem resolve_fixed (place : Location) (count : UInt64) (t : Template) :
    resolve registry context (.array place (.fixed count) t) =
      resolve registry context (.sequence (List.replicate count.toNat t)) := by
  rw [resolve, resolve, drawCardinality, pure_bind, resolveItems_replicate]

theorem resolveOption_eq {options : List Template} {i : Nat} (inside : i < options.length)
    (place : Location) :
    resolveOption registry context place options i = options[i].resolve registry context := by
  induction options generalizing i with
  | nil => exact nomatch inside
  | cons t rest ih =>
    cases i with
    | zero => rw [resolveOption, List.getElem_cons_zero]
    | succ i => rw [resolveOption, ih (Nat.lt_of_succ_lt_succ inside), List.getElem_cons_succ]

/-- Once the length is drawn, elements are repeated as often as that. -/
theorem run_resolve_range {min max count : UInt64} {p : Progress σ} (ordered : min ≤ max)
    (drawn : (Draw.between64 min.toNat max.toNat p.source).1 = count.toNat) (place : Location)
    (t : Template) :
    (resolve registry context (.array place (.range min max) t)).run p =
      (resolve registry context (.array place (.fixed count) t)).run
        (p.after (Draw.between64 min.toNat max.toNat)) := by
  have right := Nat.not_lt.mpr (UInt64.le_iff_toNat_le.mp ordered)
  rw [resolve, resolve, drawCardinality, drawCardinality, if_neg right, run_draw_bind drawn,
    pure_bind]

/-- Once the index is drawn, the choice is the option at it. -/
theorem run_resolve_oneOf {options : List Template} {i : Nat} {p : Progress σ}
    (drawn : (Draw.index options.length p.source).1 = i) (inside : i < options.length)
    (place : Location) :
    (resolve registry context (.oneOf place options)).run p =
      (options[i].resolve registry context).run (p.after (Draw.index options.length)) := by
  have inhabited : ¬ options.isEmpty := by
    rw [List.isEmpty_iff_length_eq_zero]
    omega
  rw [resolve, if_neg inhabited, run_draw_bind drawn, resolveOption_eq registry context inside]

theorem run_resolve_nullable {place : Location} {probability : Binary64} {p : Progress σ}
    {null : Bool} (drawn : (Draw.chance probability p.source).1 = null) (t : Template) :
    (resolve registry context (.nullable place probability t)).run p =
      (if null then return .null else t.resolve registry context : Resolution σ Json).run
        (p.after (Draw.chance probability)) := by
  rw [resolve]
  exact run_draw_bind drawn _

/-- Repeating a template a fixed number of times is a list of copies of it. Equal bounds, a single
option and a probability of zero change nothing but that one word is drawn first. With a probability
of one there is null after one word, whatever the template. -/
theorem resolve_laws (place : Location) (t : Template) :
    (∀ count : UInt64, resolve registry context (.array place (.fixed count) t) =
      resolve registry context (.sequence (List.replicate count.toNat t))) ∧
    (∀ (n : UInt64) (p : Progress σ),
      Draw.between64 n.toNat n.toNat p.source = (n.toNat, (RandomSource.next64 p.source).2) ∧
      (resolve registry context (.array place (.range n n) t)).run p =
        (resolve registry context (.array place (.fixed n) t)).run
          (p.after (Draw.between64 n.toNat n.toNat))) ∧
    (∀ p : Progress σ,
      Draw.index 1 p.source = (0, (RandomSource.next32 p.source).2) ∧
      (resolve registry context (.oneOf place [t])).run p =
        (t.resolve registry context).run (p.after (Draw.index 1))) ∧
    ∀ (probability : Binary64) (p : Progress σ),
      (Draw.chance probability p.source).2 = (RandomSource.next64 p.source).2 ∧
      (probability.units = 0 →
        (resolve registry context (.nullable place probability t)).run p =
          (t.resolve registry context).run (p.after (Draw.chance probability))) ∧
      (probability.units = Binary64.unitsPerOne →
        (resolve registry context (.nullable place probability t)).run p =
          (.ok .null, p.after (Draw.chance probability))) := by
  refine ⟨fun count => resolve_fixed registry context place count t, fun n p => ⟨?_, ?_⟩,
    fun p => ⟨?_, ?_⟩, fun probability p => ⟨rfl, fun zero => ?_, fun one => ?_⟩⟩
  · exact Draw.between64_self n.toNat p.source
  · have drawn : (Draw.between64 n.toNat n.toNat p.source).1 = n.toNat := by
      rw [Draw.between64_self]
    exact run_resolve_range registry context UInt64.le_rfl drawn place t
  · exact Draw.index_one p.source
  · have drawn : (Draw.index [t].length p.source).1 = 0 := by
      rw [List.length_singleton, Draw.index_one]
    exact run_resolve_oneOf registry context drawn Nat.zero_lt_one place
  · have drawn : (Draw.chance probability p.source).1 = false := by rw [Draw.chance_zero zero]
    rw [run_resolve_nullable registry context drawn]
    rfl
  · have drawn : (Draw.chance probability p.source).1 = true := by rw [Draw.chance_one one]
    rw [run_resolve_nullable registry context drawn]
    rfl

/-- No provider is found at the path, which is not even looked for under a probability of one. -/
theorem resolve_laws_unresolved :
    let place := Location.atRoot "/template"
    let t : Template := .faker place "no.provider" none
    let registry : Registry (Provider Script) := .empty
    let context : RecordContext := ⟨0, .enUS, .midnight 0⟩
    let p : Progress Script := ⟨Script.cycle 0xffffffffffffffff #[], [("number.int", 2)]⟩
    let unlikely := Binary64.zero.neg
    unlikely.units = 0 ∧ Binary64.one.units = Binary64.unitsPerOne ∧
      (resolve registry context (.nullable place unlikely t)).run p =
        (t.resolve registry context).run (p.after (Draw.chance unlikely)) ∧
      (resolve registry context (.nullable place .one t)).run p =
        (.ok .null, p.after (Draw.chance .one)) := by
  intro place t registry context p unlikely
  have zero : unlikely.units = 0 := by decide +kernel
  have one : Binary64.one.units = Binary64.unitsPerOne := by decide +kernel
  obtain ⟨_, _, _, nullable⟩ := resolve_laws registry context place t
  exact ⟨zero, one, (nullable unlikely p).2.1 zero, (nullable .one p).2.2 one⟩

end Template

end MockData
