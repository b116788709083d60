import MockData.Proofs.Except
import MockData.Proofs.Json.Structure
import MockData.Proofs.Numeric.Whole
import MockData.Proofs.Template.Shapes

/-!
# Reading specifications

The members of an object are read whatever their order (`readMembers_ok`), so a specification is
what stands under its three keys (`ofJson_object_ok`). `violations_eq_nil_iff` says the same of the
schema, which does not bound the count from above.
-/

namespace MockData

open Shape (Omitted)

inductive ReadsFilename : Option Json → Option String → Prop where
  | omitted {v : Option Json} (h : Omitted v) : ReadsFilename v none
  | given (name : String) : ReadsFilename (some (.string name)) (some name)

theorem ReadsFilename.unique {v : Option Json} {one other : Option String}
    (reads : ReadsFilename v one) (again : ReadsFilename v other) : one = other := by
  cases reads with
  | omitted h =>
    cases again with
    | omitted _ => rfl
    | given name => exact h.elim nofun nofun
  | given name =>
    cases again with
    | omitted h => exact h.elim nofun nofun
    | given _ => rfl

namespace DocumentSpec

theorem readCount_ok {v : Json} {count : UInt64} :
    readCount v = .ok count ↔ ∃ number, v = .number number ∧ countOf? number = some count := by
  cases v with
  | number number =>
    cases counted : countOf? number with
    | none => simp [readCount, counted]
    | some n => simp [readCount, counted]
  | _ => simp [readCount]

theorem readFilename_ok {v : Json} {filename : Option String} :
    readFilename v = .ok filename ↔ ReadsFilename (some v) filename := by
  constructor
  · intro read
    unfold readFilename at read
    split at read
    · cases read
      exact .omitted (.inr rfl)
    · cases read
      exact .given _
    · exact nomatch read
  · intro reads
    cases reads with
    | omitted h =>
      rcases h with absent | null
      · exact nomatch absent
      · obtain rfl := Option.some.inj null
        rfl
    | given name => rfl

/-- What is under a key is read and kept; without the key nothing changes. -/
def Takes {α : Type} (read : Json → Except SpecFault α) (given : Option Json)
    (before after : Option α) : Prop :=
  match given with
  | none => after = before
  | some v => ∃ a, read v = .ok a ∧ after = some a

theorem takes_cons {α : Type} {read : Json → Except SpecFault α} {k : String} {v : Json}
    {rest : List (String × Json)} (fresh : Json.find? rest k = none) (key : String)
    {before after : Option α} :
    Takes read (Json.find? ((k, v) :: rest) key) before after ↔ ∃ next,
      Takes read (if key = k then some v else none) before next ∧
        Takes read (Json.find? rest key) next after := by
  rw [Json.find?_cons]
  by_cases here : key = k
  · subst here
    simp only [reduceIte, fresh]
    constructor
    · rintro ⟨a, given, rfl⟩
      exact ⟨_, ⟨a, given, rfl⟩, rfl⟩
    · rintro ⟨_, ⟨a, given, rfl⟩, rfl⟩
      exact ⟨a, given, rfl⟩
  · simp only [if_neg here]
    constructor
    · intro taken
      exact ⟨before, rfl, taken⟩
    · rintro ⟨_, rfl, taken⟩
      exact taken

theorem readMember_ok {p q : Parts} {key : String} {value : Json} :
    readMember p key value = .ok q ↔
      Takes readCount (if "count" = key then some value else none) p.count q.count ∧
      Takes readFilename (if "filename" = key then some value else none) p.filename q.filename ∧
      Takes .ok (if "template" = key then some value else none) p.template q.template := by
  obtain ⟨count, filename, template⟩ := q
  unfold readMember
  by_cases first : key = "count"
  · subst first
    simp only [bind_ok, pure_ok, Parts.mk.injEq, Takes, String.reduceEq, reduceIte]
    constructor
    · rintro ⟨n, read, rfl, rfl, rfl⟩
      exact ⟨⟨n, read, rfl⟩, rfl, rfl⟩
    · rintro ⟨⟨n, read, rfl⟩, rfl, rfl⟩
      exact ⟨n, read, rfl, rfl, rfl⟩
  · by_cases second : key = "filename"
    · subst second
      simp only [bind_ok, pure_ok, Parts.mk.injEq, Takes, String.reduceEq, reduceIte]
      constructor
      · rintro ⟨name, read, rfl, rfl, rfl⟩
        exact ⟨rfl, ⟨name, read, rfl⟩, rfl⟩
      · rintro ⟨rfl, ⟨name, read, rfl⟩, rfl⟩
        exact ⟨name, read, rfl, rfl, rfl⟩
    · by_cases third : key = "template"
      · subst third
        simp [Takes, eq_comm]
      · cases p
        simp [Takes, first, second, third, Ne.symm, eq_comm]

/-- Each key is read on its own, wherever it stands. -/
theorem readMembers_ok {members : List (String × Json)}
    (distinct : Json.keysDistinctMembers members) {p q : Parts} :
    readMembers p members = .ok q ↔
      Takes readCount (Json.find? members "count") p.count q.count ∧
      Takes readFilename (Json.find? members "filename") p.filename q.filename ∧
      Takes .ok (Json.find? members "template") p.template q.template := by
  induction members generalizing p with
  | nil =>
    cases p
    cases q
    simp [readMembers, Takes, Json.find?, eq_comm]
  | cons m rest ih =>
    obtain ⟨key, value⟩ := m
    obtain ⟨_, fresh, others⟩ := Json.keysDistinctMembers_cons.mp distinct
    have step : readMembers p ((key, value) :: rest) = .ok q ↔
        ∃ next, readMember p key value = .ok next ∧ readMembers next rest = .ok q := bind_ok
    simp only [step, readMember_ok, ih others, takes_cons fresh]
    constructor
    · rintro ⟨next, ⟨count, filename, template⟩, count', filename', template'⟩
      exact ⟨⟨_, count, count'⟩, ⟨_, filename, filename'⟩, _, template, template'⟩
    · rintro ⟨⟨_, count, count'⟩, ⟨_, filename, filename'⟩, _, template, template'⟩
      exact ⟨⟨_, _, _⟩, ⟨count, filename, template⟩, count', filename', template'⟩

theorem ofParts_ok {p : Parts} {spec : DocumentSpec} :
    ofParts p = .ok spec ↔ p.count = some spec.count ∧ spec.filename = p.filename.getD none ∧
      p.template = some spec.template := by
  obtain ⟨count, filename, template⟩ := p
  obtain ⟨n, name, source⟩ := spec
  cases count <;> cases template <;> simp [ofParts, and_comm, eq_comm]

theorem exists_takes_filename {v : Option Json} {filename : Option String} :
    (∃ after, Takes readFilename v none after ∧ filename = after.getD none) ↔
      ReadsFilename v filename := by
  cases v with
  | none =>
    constructor
    · rintro ⟨_, rfl, rfl⟩
      exact .omitted (.inl rfl)
    · intro reads
      exact ⟨none, rfl, reads.unique (.omitted (.inl rfl))⟩
  | some v =>
    constructor
    · rintro ⟨_, ⟨name, read, rfl⟩, rfl⟩
      exact readFilename_ok.mp read
    · intro reads
      exact ⟨some filename, ⟨_, readFilename_ok.mpr reads, rfl⟩, rfl⟩

/-- A specification is what is under the three keys of an object. -/
theorem ofJson_object_ok {members : List (String × Json)}
    (distinct : Json.keysDistinctMembers members) {spec : DocumentSpec} :
    ofJson (.object members) = .ok spec ↔
      (∃ number, Json.find? members "count" = some (.number number) ∧
        countOf? number = some spec.count) ∧
      ReadsFilename (Json.find? members "filename") spec.filename ∧
      Json.find? members "template" = some spec.template := by
  unfold ofJson
  simp only [bind_ok, readMembers_ok distinct, ofParts_ok, ← exists_takes_filename]
  constructor
  · rintro ⟨q, ⟨count, filename, template⟩, counted, name, source⟩
    refine ⟨?_, ⟨q.filename, filename, name⟩, ?_⟩
    · cases found : Json.find? members "count" with
      | none =>
        rw [found] at count
        exact nomatch count.symm.trans counted
      | some v =>
        rw [found] at count
        obtain ⟨n, read, same⟩ := count
        obtain ⟨number, rfl, fits⟩ := readCount_ok.mp read
        exact ⟨number, rfl, fits.trans (same.symm.trans counted)⟩
    · cases found : Json.find? members "template" with
      | none =>
        rw [found] at template
        exact nomatch template.symm.trans source
      | some v =>
        rw [found] at template
        obtain ⟨_, ⟨⟩, same⟩ := template
        exact same.symm.trans source
  · rintro ⟨⟨number, found, counted⟩, ⟨filename, taken, name⟩, template⟩
    refine ⟨⟨some spec.count, filename, some spec.template⟩, ⟨?_, taken, ?_⟩, rfl, name, rfl⟩
    · rw [found]
      exact ⟨_, readCount_ok.mpr ⟨number, rfl, counted⟩, rfl⟩
    · rw [template]
      exact ⟨_, rfl, rfl⟩

/-- Where the filename can be read, a count that cannot be is the fault, wherever it stands. -/
theorem readMembers_badCount {members : List (String × Json)} {number : JsonNumber}
    (found : Json.find? members "count" = some (.number number)) (refused : countOf? number = none)
    (named : ∀ v, ("filename", v) ∈ members → ∃ filename, ReadsFilename (some v) filename)
    (p : Parts) : readMembers p members = .error (.badCount number) := by
  induction members generalizing p with
  | nil => exact nomatch found
  | cons m rest ih =>
    obtain ⟨key, value⟩ := m
    rw [Json.find?_cons] at found
    by_cases count : key = "count"
    · subst count
      rw [if_pos rfl] at found
      obtain rfl := Option.some.inj found
      simp [readMembers, readMember, readCount, refused, bind, Except.bind]
    · rw [if_neg (Ne.symm count)] at found
      -- A filename in front of the count has been read by then, so it must be readable.
      obtain ⟨next, read⟩ : ∃ next, readMember p key value = .ok next := by
        unfold readMember
        rw [if_neg count]
        split
        · rename_i filename
          subst filename
          obtain ⟨name, reads⟩ := named value List.mem_cons_self
          exact ⟨_, bind_ok.mpr ⟨name, readFilename_ok.mpr reads, rfl⟩⟩
        · split
          · exact ⟨_, rfl⟩
          · exact ⟨_, rfl⟩
      rw [readMembers, read]
      exact ih found (fun v member => named v (List.mem_cons_of_mem _ member)) next

end DocumentSpec

structure DocumentSpec.ReadFrom (members : List (String × Json)) (count : Nat)
    (filename : Option String) (source : Json) : Prop where
  count : ∃ number, Json.find? members "count" = some (.number number) ∧ number.HasValue count
  filename : ReadsFilename (Json.find? members "filename") filename
  source : Json.find? members "template" = some source

namespace DocumentSchema

theorem requireMember_eq_nil {members : List (String × Json)} {key : String} :
    requireMember members key = [] ↔ ∃ v, Json.find? members key = some v := by
  unfold requireMember Json.hasKey
  rw [← Option.isSome_iff_exists]
  split <;> simp_all

theorem memberIssues_eq_nil {members : List (String × Json)} {key : String}
    {issues : Json → List Issue} :
    memberIssues members key issues = [] ↔
      ∀ v, Json.find? members key = some v → issues v = [] := by
  unfold memberIssues
  split <;> simp_all

theorem countIssues_eq_nil {v : Json} :
    countIssues v = [] ↔ ∃ (number : JsonNumber) (n : Nat),
      v = .number number ∧ number.HasValue n ∧ 1 ≤ n := by
  unfold countIssues
  rw [List.append_eq_nil_iff]
  constructor
  · rintro ⟨whole, least⟩
    have whole : isWhole v := by simpa using whole
    have least : isBelowOne v = false := by simpa using least
    cases v with
    | number number =>
      obtain ⟨n, value⟩ := (isWhole_iff number).mp whole
      have positive : 1 ≤ n := by
        refine Int.not_lt.mp fun small => ?_
        rw [(isBelowOne_iff value).mpr small] at least
        exact nomatch least
      refine ⟨number, n.toNat, rfl, ?_, by omega⟩
      rwa [Int.toNat_of_nonneg (by omega)]
    | _ => exact nomatch whole
  · rintro ⟨number, n, rfl, value, positive⟩
    have whole : isWhole (.number number) := (isWhole_iff number).mpr ⟨n, value⟩
    have least : ¬ isBelowOne (.number number) := by
      rw [isBelowOne_iff value]
      omega
    rw [if_pos whole, if_neg least]
    exact ⟨rfl, rfl⟩

theorem filenameIssues_eq_nil {v : Json} :
    filenameIssues v = [] ↔ ∃ filename, ReadsFilename (some v) filename := by
  unfold filenameIssues
  split
  · exact iff_of_true rfl ⟨none, .omitted (.inr rfl)⟩
  · exact iff_of_true rfl ⟨_, .given _⟩
  · rename_i null string
    refine iff_of_false (List.cons_ne_nil _ _) ?_
    rintro ⟨_, reads⟩
    cases reads with
    | omitted h => exact h.elim nofun fun same => null (Option.some.inj same)
    | given name => exact string name rfl

/-- Nothing departs from the schema where a specification can be read and the count is positive,
however large it is. -/
theorem violations_eq_nil_iff {value : Json} :
    violations value = [] ↔ ∃ members count filename source, value = .object members ∧
      DocumentSpec.ReadFrom members count filename source ∧ 1 ≤ count := by
  cases value with
  | object members =>
    simp only [violations, List.append_eq_nil_iff, requireMember_eq_nil, memberIssues_eq_nil]
    constructor
    · rintro ⟨⟨⟨⟨given, counted⟩, source, template⟩, count⟩, filename⟩
      obtain ⟨number, n, rfl, value, positive⟩ := countIssues_eq_nil.mp (count given counted)
      obtain ⟨name, reads⟩ : ∃ name, ReadsFilename (Json.find? members "filename") name := by
        cases found : Json.find? members "filename" with
        | none => exact ⟨none, .omitted (.inl rfl)⟩
        | some v => exact filenameIssues_eq_nil.mp (filename v found)
      exact ⟨members, n, name, source, rfl, ⟨⟨number, counted, value⟩, reads, template⟩, positive⟩
    · rintro ⟨_, n, name, source, ⟨⟩, ⟨⟨number, counted, value⟩, reads, template⟩, positive⟩
      refine ⟨⟨⟨⟨_, counted⟩, _, template⟩, fun v found => ?_⟩, fun v found => ?_⟩
      · obtain rfl := Option.some.inj (counted.symm.trans found)
        exact countIssues_eq_nil.mpr ⟨number, n, rfl, value, positive⟩
      · exact filenameIssues_eq_nil.mpr ⟨name, found ▸ reads⟩
  | _ => exact iff_of_false (List.cons_ne_nil _ _) (by rintro ⟨_, _, _, _, ⟨⟩, _⟩)

end DocumentSchema

end MockData
