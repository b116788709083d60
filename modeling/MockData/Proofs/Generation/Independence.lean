import MockData.Generation.Run
import MockData.Proofs.Template.Tally
import MockData.Surroundings.Machine

/-!
# Records are independent of each other

A generation is put together from the records by themselves: `resolveFrom_combined` carries along
that the records so far and their calls are those of the solitary resolutions. Everything that
relates runs of different lengths follows from it.
-/

namespace MockData

namespace Generation

/-- The record at an index by itself, from the source of the record and after no calls. -/
def solitary (registry : Registry (Provider ChaCha8)) (context : RunContext) (template : Template)
    (index : Nat) : Except DirectiveError Json × Usage :=
  resolveRecord registry context template (UInt64.ofNat index) []

def FailsFirst (alone : Nat → Except DirectiveError Json × Usage) (k : Nat) (e : DirectiveError) :
    Prop :=
  (alone k).1 = .error e ∧ ∀ i < k, ∃ v, (alone i).1 = .ok v

def callsTo (alone : Nat → Except DirectiveError Json × Usage) : (count : Nat) → String → Nat
  | 0, _ => 0
  | count + 1, path => callsTo alone count path + (alone count).2.count path

/-- What `count` records give together if every record by itself gives what `alone` says. -/
inductive Combined (alone : Nat → Except DirectiveError Json × Usage) (count : Nat) :
    Except GenerationError GeneratedRecords → Prop where
  | all {g : GeneratedRecords}
      (records : g.records.map .ok = (List.range count).map fun i => (alone i).1)
      (calls : ∀ path, g.usage.count path = callsTo alone count path)
      (listed : g.usage.Positive) : Combined alone count (.ok g)
  | failure {k : Nat} {e : DirectiveError} (inside : k < count) (first : FailsFirst alone k e) :
      Combined alone count (.error (.record (k + 1) e))

section

variable {alone : Nat → Except DirectiveError Json × Usage} {count k : Nat}
  {e : DirectiveError} {vs : List Json}

theorem succeeds_of_map (same : vs.map .ok = (List.range count).map fun i => (alone i).1) :
    ∀ i < count, ∃ v, (alone i).1 = .ok v := by
  intro i inside
  have member : (alone i).1 ∈ vs.map .ok := by
    rw [same]
    exact List.mem_map_of_mem (List.mem_range.mpr inside)
  obtain ⟨v, _, value⟩ := List.mem_map.mp member
  exact ⟨v, value.symm⟩

theorem getElem?_of_map (same : vs.map .ok = (List.range count).map fun i => (alone i).1) {i : Nat}
    {v : Json} (found : vs[i]? = some v) : (alone i).1 = .ok v := by
  have here : (vs.map Except.ok)[i]? = some (.ok v : Except DirectiveError Json) := by
    rw [List.getElem?_map, found]
    rfl
  rw [same, List.getElem?_map] at here
  obtain ⟨j, position, value⟩ := Option.map_eq_some_iff.mp here
  obtain ⟨_, same⟩ := List.getElem?_eq_some_iff.mp position
  rw [List.getElem_range] at same
  subst same
  exact value

theorem failsFirst_unique {j : Nat} {f : DirectiveError} (one : FailsFirst alone k e)
    (other : FailsFirst alone j f) : k = j ∧ e = f := by
  have same : k = j := by
    rcases Nat.lt_trichotomy k j with before | same | after
    · obtain ⟨v, value⟩ := other.2 k before
      rw [one.1] at value
      exact nomatch value
    · exact same
    · obtain ⟨v, value⟩ := one.2 j after
      rw [other.1] at value
      exact nomatch value
  subst same
  exact ⟨rfl, Except.error.inj (one.1.symm.trans other.1)⟩

end

theorem resolveRecord_offset (registry : Registry (Provider ChaCha8)) (context : RunContext)
    (template : Template) (index : Nat) (usage : Usage) :
    let after := resolveRecord registry context template (UInt64.ofNat index) usage
    let alone := solitary registry context template index
    after.1 = alone.1 ∧ (∀ path, after.2.count path = usage.count path + alone.2.count path) ∧
      (usage.Positive → after.2.Positive) := by
  let start := ChaCha8.ofSeed (recordSeed context.seed (UInt64.ofNat index))
  obtain ⟨outcome, source, calls, plain, _⟩ :=
    Template.resolve_tallies registry (context.ofRecord (UInt64.ofNat index)) template start
  have ends (u : Usage) : resolveRecord registry context template (UInt64.ofNat index) u =
      (outcome, u.addAll calls) := by
    unfold resolveRecord
    dsimp only
    rw [plain u]
  intro after alone
  rw [show after = _ from ends usage, show alone = _ from ends []]
  refine ⟨rfl, fun path => ?_, fun listed => Usage.positive_addAll listed calls⟩
  rw [Usage.count_addAll, Usage.count_addAll, Usage.count_nil, Nat.zero_add]

/-- Records resolved after those before `index`, whose values and calls are solitary ones. -/
theorem resolveFrom_combined (registry : Registry (Provider ChaCha8)) (context : RunContext)
    (template : Template) (left index : Nat) (usage : Usage) (done : List Json)
    (records : done.reverse.map .ok =
      (List.range index).map fun i => (solitary registry context template i).1)
    (calls : ∀ path,
      usage.count path = callsTo (solitary registry context template) index path)
    (listed : usage.Positive) :
    Combined (solitary registry context template) (index + left)
      (resolveFrom registry context template left index usage done) := by
  induction left generalizing index usage done with
  | zero => exact .all records calls listed
  | succ left ih =>
    obtain ⟨outcome, count, positive⟩ :=
      resolveRecord_offset registry context template index usage
    unfold resolveFrom
    generalize resolveRecord registry context template (UInt64.ofNat index) usage = after
      at outcome count positive ⊢
    obtain ⟨result, usage'⟩ := after
    cases result with
    | error e => exact .failure (by omega) ⟨outcome.symm, succeeds_of_map records⟩
    | ok v =>
      rw [show index + (left + 1) = index + 1 + left by omega]
      refine ih (index + 1) usage' (v :: done) ?_ ?_ (positive listed)
      · simp [List.range_succ, records, ← outcome]
      · intro path
        rw [count, calls, callsTo]

theorem records_combined (registry : Registry (Provider ChaCha8)) (context : RunContext)
    (document : Document) :
    Combined (solitary registry context document.template) document.count.toNat
      (records registry context document) := by
  have whole := resolveFrom_combined registry context document.template document.count.toNat 0 [] []
    rfl (fun _ => rfl) Usage.positive_nil
  rwa [Nat.zero_add] at whole

theorem seed_of_resolveFrom {registry : Registry (Provider ChaCha8)} {context : RunContext}
    {template : Template} {left index : Nat} {usage : Usage} {done : List Json}
    {g : GeneratedRecords}
    (ok : resolveFrom registry context template left index usage done = .ok g) :
    g.seed = context.seed := by
  induction left generalizing index usage done with
  | zero =>
    obtain rfl := Except.ok.inj ok
    rfl
  | succ left ih =>
    unfold resolveFrom at ok
    split at ok
    · exact ih ok
    · exact nomatch ok

section

variable {alone : Nat → Except DirectiveError Json × Usage} {count : Nat}
  {outcome : Except GenerationError GeneratedRecords}

theorem Combined.ok_iff (combined : Combined alone count outcome) :
    (∃ g, outcome = .ok g) ↔ ∀ i < count, ∃ v, (alone i).1 = .ok v := by
  cases combined with
  | all records _ _ => exact ⟨fun _ => succeeds_of_map records, fun _ => ⟨_, rfl⟩⟩
  | failure inside first =>
    refine ⟨fun ⟨_, same⟩ => (nomatch same), fun succeeds => ?_⟩
    obtain ⟨v, value⟩ := succeeds _ inside
    rw [first.1] at value
    exact nomatch value

theorem Combined.error_iff (combined : Combined alone count outcome) (f : GenerationError) :
    outcome = .error f ↔ ∃ k < count, ∃ e, FailsFirst alone k e ∧ f = .record (k + 1) e := by
  cases combined with
  | all records _ _ =>
    refine ⟨fun same => (nomatch same), ?_⟩
    rintro ⟨k, inside, e, first, -⟩
    obtain ⟨v, value⟩ := succeeds_of_map records k inside
    rw [first.1] at value
    exact nomatch value
  | failure inside first =>
    constructor
    · intro same
      exact ⟨_, inside, _, first, (Except.error.inj same).symm⟩
    · rintro ⟨k, _, e, other, rfl⟩
      obtain ⟨rfl, rfl⟩ := failsFirst_unique first other
      rfl

theorem Combined.values (combined : Combined alone count outcome) {g : GeneratedRecords}
    (ok : outcome = .ok g) : g.records.map .ok = (List.range count).map fun i => (alone i).1 := by
  subst ok
  cases combined with
  | all records _ _ => exact records

theorem Combined.usage (combined : Combined alone count outcome) {g : GeneratedRecords}
    (ok : outcome = .ok g) (path : String) :
    Dictionary.get? g.usage path =
      if callsTo alone count path = 0 then none else some (callsTo alone count path) := by
  subst ok
  cases combined with
  | all _ calls listed => rw [Usage.get?_of_positive listed, calls]

/-- A generation of more records starts with those of a shorter one. -/
theorem Combined.take {n : Nat} {short long : Except GenerationError GeneratedRecords}
    (fewer : Combined alone n short) (more : Combined alone count long) (le : n ≤ count)
    {g : GeneratedRecords} (ok : long = .ok g) :
    ∃ h, short = .ok h ∧ h.records = g.records.take n := by
  have all := more.ok_iff.mp ⟨g, ok⟩
  obtain ⟨h, same⟩ := fewer.ok_iff.mpr fun i inside => all i (by omega)
  refine ⟨h, same, ?_⟩
  have values := fewer.values same
  have longer := congrArg (List.take n) (more.values ok)
  rw [← List.map_take, ← List.map_take, List.take_range, Nat.min_eq_left le, ← values] at longer
  exact (List.map_inj_right fun _ _ => Except.ok.inj).mp longer.symm

end

theorem generateRecords_eq {m : Type → Type} [Monad m] [LawfulMonad m] [Surroundings m]
    (registry : Registry (Provider ChaCha8)) (options : GenerateOptions) (document : Document)
    {seed : UInt64} {date : Date} (seeded : options.seed = some seed)
    (dated : options.baseDate = some date) :
    generateRecords (m := m) registry options document =
      pure (records registry ⟨seed, options.locale, .midnight date.dayNumber⟩ document) := by
  simp [generateRecords, runSeed, generate, runContext, referenceTime, seeded, dated]

/-- A generation with a given seed and day succeeds exactly if every record by itself does, and then
it gives the solitary records with the seed and the sum of their calls. Otherwise it ends with the
failure of the least failing record. So the records before the end of a shorter generation are those
of a longer one, and so is a failure. -/
theorem records_independent {m : Type → Type} [Monad m] [LawfulMonad m] [Surroundings m]
    (registry : Registry (Provider ChaCha8)) (options : GenerateOptions) (document : Document)
    {seed : UInt64} {date : Date} (seeded : options.seed = some seed)
    (dated : options.baseDate = some date) :
    let context : RunContext := ⟨seed, options.locale, .midnight date.dayNumber⟩
    let alone := solitary registry context document.template
    let counted (n : UInt64) : Document := { document with count := n }
    let outcome (n : UInt64) := records registry context (counted n)
    (∀ n, generateRecords (m := m) registry options (counted n) = pure (outcome n)) ∧
    (∀ n, (∃ g, outcome n = .ok g) ↔ ∀ i < n.toNat, ∃ v, (alone i).1 = .ok v) ∧
    (∀ n g, outcome n = .ok g →
      g.seed = seed ∧ g.records.length = n.toNat ∧
      (∀ i v, g.records[i]? = some v → (alone i).1 = .ok v) ∧
      ∀ path, Dictionary.get? g.usage path =
        if callsTo alone n.toNat path = 0 then none else some (callsTo alone n.toNat path)) ∧
    (∀ n f, outcome n = .error f ↔
      ∃ k < n.toNat, ∃ e, FailsFirst alone k e ∧ f = .record (k + 1) e) ∧
    ∀ n l, n ≤ l →
      (∀ g, outcome l = .ok g → ∃ h, outcome n = .ok h ∧ h.records = g.records.take n.toNat) ∧
      ∀ k < n.toNat, ∀ e, FailsFirst alone k e →
        outcome n = .error (.record (k + 1) e) ∧ outcome l = .error (.record (k + 1) e) := by
  intro context alone counted outcome
  have combined (n : UInt64) : Combined alone n.toNat (outcome n) :=
    records_combined registry context (counted n)
  refine ⟨fun n => generateRecords_eq registry options (counted n) seeded dated,
    fun n => (combined n).ok_iff,
    fun n g ok => ⟨seed_of_resolveFrom ok, ?_, ?_, (combined n).usage ok⟩,
    fun n => (combined n).error_iff, fun n l le => ⟨?_, ?_⟩⟩
  · have lengths := congrArg List.length ((combined n).values ok)
    simpa using lengths
  · exact fun i v => getElem?_of_map ((combined n).values ok)
  · exact fun g ok => (combined n).take (combined l) (UInt64.le_iff_toNat_le.mp le) ok
  · intro k inside e first
    have longer := UInt64.le_iff_toNat_le.mp le
    exact ⟨((combined n).error_iff _).mpr ⟨k, inside, e, first, rfl⟩,
      ((combined l).error_iff _).mpr ⟨k, by omega, e, first, rfl⟩⟩

theorem records_independent_failing :
    let registry : Registry (Provider ChaCha8) :=
      Registry.empty.register "record.index" fun context _ =>
        return if context.index = 1 then .error (.failed "no such row")
          else .ok (.ofUInt64 context.index)
    let options : GenerateOptions :=
      { GenerateOptions.standard with seed := some 5, baseDate := some ⟨2024, 1, 1⟩ }
    let place := Location.atRoot "/template"
    let document : Document := ⟨3, "rows.json", .faker place "record.index" none, .null⟩
    options.seed = some 5 ∧ options.baseDate = some ⟨2024, 1, 1⟩ ∧
      generateRecords (m := StateM Machine) registry options document =
        pure (.error (.record 2 (.providerFailed place "record.index" "no such row"))) := by
  intro registry options place document
  obtain ⟨same, _, _, fails, _⟩ :=
    records_independent (m := StateM Machine) registry options document
      (show options.seed = some 5 from rfl) (show options.baseDate = some ⟨2024, 1, 1⟩ from rfl)
  refine ⟨rfl, rfl, (same 3).trans (congrArg pure ((fails 3 _).mpr ?_))⟩
  refine ⟨1, by decide, _, ⟨rfl, fun i before => ?_⟩, rfl⟩
  obtain rfl : i = 0 := by omega
  exact ⟨.ofUInt64 0, rfl⟩

end Generation

end MockData
