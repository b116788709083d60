import MockData.Document.Basic
import MockData.Proofs.Document.Specification
import MockData.Proofs.Json.Parsing

/-!
# Which documents are accepted

A document is what a specification with a positive count below `2 ^ 64` makes of a template that can
be compiled (`ofJson_ok_iff`). The schema lets larger counts through, which cannot be read
(`count_above_word`); apart from them, whatever the schema accepts is read
(`reader_agrees_with_schema`).
-/

namespace MockData

open DocumentSchema

namespace DocumentSpec

section

variable {members : List (String × Json)} {n : Nat} {filename : Option String} {source : Json}

theorem ReadFrom.hasValue (given : ReadFrom members n filename source) {number : JsonNumber}
    (found : Json.find? members "count" = some (.number number)) : number.HasValue n := by
  obtain ⟨_, there, value⟩ := given.count
  obtain rfl := Json.number.inj (Option.some.inj (found.symm.trans there))
  exact value

theorem ReadFrom.unique {m : Nat} {name : Option String} {template : Json}
    (given : ReadFrom members n filename source) (again : ReadFrom members m name template) :
    n = m ∧ filename = name ∧ source = template := by
  obtain ⟨number, found, value⟩ := given.count
  exact ⟨Int.ofNat_inj.mp (value.unique (again.hasValue found)),
    given.filename.unique again.filename,
    Option.some.inj (given.source.symm.trans again.source)⟩

/-- A positive count is read if it fits a word, and then everything is. -/
theorem ofJson_ok_iff_fits {spec : DocumentSpec} (distinct : Json.keysDistinctMembers members)
    (given : ReadFrom members n filename source) (positive : 1 ≤ n) :
    ofJson (.object members) = .ok spec ↔
      n < 0x10000000000000000 ∧ spec = ⟨.ofNat n, filename, source⟩ := by
  rw [ofJson_object_ok distinct]
  constructor
  · rintro ⟨⟨number, found, counted⟩, name, template⟩
    rw [countOf?_eq (given.hasValue found) positive, Option.ite_none_right_eq_some] at counted
    obtain ⟨fits, same⟩ := counted
    obtain ⟨count, filename, template⟩ := spec
    obtain rfl := Option.some.inj same
    obtain rfl := given.filename.unique name
    obtain rfl := Option.some.inj (given.source.symm.trans template)
    exact ⟨fits, rfl⟩
  · rintro ⟨fits, rfl⟩
    obtain ⟨number, found, value⟩ := given.count
    refine ⟨⟨number, found, ?_⟩, given.filename, given.source⟩
    rw [countOf?_eq value positive, if_pos fits]

theorem ofJson_badCount {number : JsonNumber} (distinct : Json.keysDistinctMembers members)
    (given : ReadFrom members n filename source)
    (found : Json.find? members "count" = some (.number number)) (large : 0x10000000000000000 ≤ n) :
    ofJson (.object members) = .error (.badCount number) := by
  have refused : countOf? number = none := by
    rw [countOf?_eq (given.hasValue found) (by omega), if_neg (by omega)]
  have named : ∀ v, ("filename", v) ∈ members → ∃ filename, ReadsFilename (some v) filename := by
    intro v member
    rw [← (Json.find?_eq_some_iff distinct).mpr member]
    exact ⟨filename, given.filename⟩
  calc ofJson (.object members)
    _ = readMembers .none members >>= ofParts := rfl
    _ = .error (.badCount number) >>= ofParts := by rw [readMembers_badCount found refused named]
    _ = .error (.badCount number) := rfl

end

end DocumentSpec

namespace Document

theorem ofJson_of_valid {value : Json} (valid : violations value = []) (limit : Nat) :
    ofJson value limit =
      match DocumentSpec.ofJson value with
      | .ok spec => ofSpec spec limit
      | .error fault => .error (.spec fault) := by
  unfold ofJson
  split
  · rfl
  · rename_i departs
    exact absurd valid departs

theorem ofJson_of_violations {value : Json} (departs : violations value ≠ []) (limit : Nat) :
    ofJson value limit = .error (.invalid (violations value)) := by
  unfold ofJson
  split
  · rename_i valid
    exact absurd valid departs
  · rfl

theorem ofSpec_ok {spec : DocumentSpec} {limit : Nat} {document : Document} :
    ofSpec spec limit = .ok document ↔
      Template.compile spec.template "/template" limit = .ok document.template ∧
      document.count = spec.count ∧ document.filename = spec.filename.getD "output.json" ∧
      document.source = spec.template := by
  obtain ⟨count, filename, template, source⟩ := document
  unfold ofSpec templateRoot defaultFilename
  cases Template.compile spec.template "/template" limit with
  | ok t => simp [eq_comm, and_left_comm]
  | error e => simp

theorem ofSpec_error {spec : DocumentSpec} {limit : Nat} {e : DocumentError}
    (failed : ofSpec spec limit = .error e) : ∃ d, e = .template d := by
  unfold ofSpec at failed
  split at failed
  · exact nomatch failed
  · rename_i d _
    cases failed
    exact ⟨d, rfl⟩

/-- What an accepted document is made of. -/
theorem ofJson_eq_ok {value : Json} (distinct : value.keysDistinct) {limit : Nat}
    {document : Document} :
    ofJson value limit = .ok document ↔ ∃ members filename, value = .object members ∧
      DocumentSpec.ReadFrom members document.count.toNat filename document.source ∧
      1 ≤ document.count.toNat ∧ document.filename = filename.getD "output.json" ∧
      Template.compile document.source "/template" limit = .ok document.template := by
  constructor
  · intro accepted
    have valid : violations value = [] := by
      refine Decidable.byContradiction fun departs => ?_
      rw [ofJson_of_violations departs] at accepted
      exact nomatch accepted
    obtain ⟨members, n, filename, source, rfl, given, positive⟩ := violations_eq_nil_iff.mp valid
    rw [ofJson_of_valid valid] at accepted
    split at accepted
    · rename_i spec read
      obtain ⟨fits, rfl⟩ := (DocumentSpec.ofJson_ok_iff_fits distinct given positive).mp read
      obtain ⟨compiled, count, name, same⟩ := ofSpec_ok.mp accepted
      have exact_count : document.count.toNat = n := by
        rw [count]
        exact UInt64.toNat_ofNat_of_lt' fits
      rw [exact_count, same]
      exact ⟨members, filename, rfl, given, positive, name, compiled⟩
    · exact nomatch accepted
  · rintro ⟨members, filename, rfl, given, positive, name, compiled⟩
    have valid := violations_eq_nil_iff.mpr ⟨members, _, filename, _, rfl, given, positive⟩
    have read := (DocumentSpec.ofJson_ok_iff_fits distinct given positive).mpr
      ⟨document.count.toNat_lt, rfl⟩
    rw [ofJson_of_valid valid, read]
    exact ofSpec_ok.mpr ⟨compiled, UInt64.ofNat_toNat.symm, name, rfl⟩

/-- A document is accepted if and only if its count is a whole number from one to `2 ^ 64 - 1`, its
filename is left out or a string and its template can be compiled; and what is kept is just that. -/
theorem ofJson_ok_iff {value : Json} (distinct : value.keysDistinct) (limit : Nat) :
    ((∃ document, ofJson value limit = .ok document) ↔
      ∃ members n filename source, value = .object members ∧
        DocumentSpec.ReadFrom members n filename source ∧ 1 ≤ n ∧ n < 0x10000000000000000 ∧
        ∃ t, Template.compile source "/template" limit = .ok t) ∧
    ∀ document members n filename source, ofJson value limit = .ok document →
      value = .object members → DocumentSpec.ReadFrom members n filename source →
        document.count.toNat = n ∧ document.filename = filename.getD "output.json" ∧
        document.source = source ∧
        Template.compile source "/template" limit = .ok document.template := by
  refine ⟨⟨?_, ?_⟩, ?_⟩
  · rintro ⟨document, accepted⟩
    obtain ⟨members, filename, same, given, positive, _, compiled⟩ :=
      (ofJson_eq_ok distinct).mp accepted
    exact ⟨members, _, filename, _, same, given, positive, document.count.toNat_lt, _, compiled⟩
  · rintro ⟨members, n, filename, source, same, given, positive, fits, t, compiled⟩
    refine ⟨⟨.ofNat n, filename.getD "output.json", t, source⟩, (ofJson_eq_ok distinct).mpr ?_⟩
    have count : (UInt64.ofNat n).toNat = n := UInt64.toNat_ofNat_of_lt' fits
    refine ⟨members, filename, same, ?_, ?_, rfl, compiled⟩
    · rwa [count]
    · rwa [count]
  · intro document members n filename source accepted same given
    obtain ⟨_, _, there, read, _, name, compiled⟩ := (ofJson_eq_ok distinct).mp accepted
    obtain rfl := Json.object.inj (same.symm.trans there)
    obtain ⟨count, rfl, rfl⟩ := read.unique given
    exact ⟨count, name, rfl, compiled⟩

theorem ofJson_ok_iff_float :
    let members : List (String × Json) :=
      [("template", .null), ("note", .bool true), ("count", .number (.float .one))]
    (Json.object members).keysDistinct ∧
      ∃ document, ofJson (.object members) 0 = .ok document ∧ document.count.toNat = 1 ∧
        document.filename = "output.json" ∧ document.source = .null := by
  intro members
  have distinct : (Json.object members).keysDistinct := rfl
  have given : DocumentSpec.ReadFrom members 1 none .null := by
    refine ⟨⟨_, rfl, ?_⟩, .omitted (.inl rfl), rfl⟩
    show _ = _
    decide +kernel
  obtain ⟨accepts, keeps⟩ := ofJson_ok_iff distinct 0
  obtain ⟨document, accepted⟩ :=
    accepts.mpr ⟨members, 1, none, .null, rfl, given, by decide, by decide, .literal .null, rfl⟩
  obtain ⟨count, name, source, _⟩ := keeps document members 1 none .null accepted rfl given
  exact ⟨distinct, document, accepted, count, name, source⟩

/-- A text is accepted for the value that is read from it, which has distinct keys. -/
theorem ofText_eq_ok {text : String} {limit : Nat} {document : Document} :
    ofText text limit = .ok document ↔ ∃ value, Json.parse text = .ok value ∧
      value.keysDistinct ∧ ofJson value limit = .ok document := by
  unfold ofText
  constructor
  · intro accepted
    split at accepted
    · rename_i value read
      exact ⟨value, read, Json.keysDistinct_of_parse read, accepted⟩
    · exact nomatch accepted
  · rintro ⟨value, read, _, accepted⟩
    rw [read]
    exact accepted

/-! ### The schema and the reader -/

def CountFits (members : List (String × Json)) : Prop :=
  ∀ number n, Json.find? members "count" = some (.number number) → number.HasValue n →
    n < 0x10000000000000000

def CountFails (members : List (String × Json)) : Prop :=
  ∀ number n, Json.find? members "count" = some (.number number) → number.HasValue n → n < 1

theorem countFits_iff {members : List (String × Json)} {n : Nat} {filename : Option String}
    {source : Json} (given : DocumentSpec.ReadFrom members n filename source) :
    CountFits members ↔ n < 0x10000000000000000 := by
  constructor
  · intro fits
    obtain ⟨number, found, value⟩ := given.count
    have small := fits number n found value
    omega
  · intro small number m found value
    rw [value.unique (given.hasValue found)]
    omega

def AboutCount (issue : Issue) : Prop :=
  issue.path = "/count" ∨ issue ∈ requireMember [] "count"

theorem path_of_mem_countIssues {v : Json} {issue : Issue} (listed : issue ∈ countIssues v) :
    issue.path = "/count" := by
  unfold countIssues at listed
  rcases List.mem_append.mp listed with type | least
  · split at type
    · exact nomatch type
    · rw [List.mem_singleton.mp type]
      rfl
  · split at least
    · rw [List.mem_singleton.mp least]
      rfl
    · exact nomatch least

theorem exists_issue_of_countFails {members : List (String × Json)} (fails : CountFails members) :
    ∃ issue ∈ violations (.object members), AboutCount issue := by
  simp only [violations, List.mem_append]
  cases found : Json.find? members "count" with
  | none =>
    have same : requireMember members "count" = requireMember [] "count" := by
      unfold requireMember Json.hasKey
      rw [found]
      rfl
    obtain ⟨issue, required⟩ : ∃ issue, issue ∈ requireMember [] "count" :=
      ⟨_, List.mem_singleton_self _⟩
    exact ⟨issue, .inl (.inl (.inl (same ▸ required))), .inr required⟩
  | some v =>
    have some_issue : countIssues v ≠ [] := by
      intro none
      obtain ⟨number, n, rfl, value, positive⟩ := countIssues_eq_nil.mp none
      have small := fails number n found value
      omega
    obtain ⟨issue, listed⟩ := List.exists_mem_of_ne_nil _ some_issue
    refine ⟨issue, .inl (.inr ?_), .inl (path_of_mem_countIssues listed)⟩
    rwa [memberIssues, found]

/-- What the schema accepts is read if the count fits a word, and then only the template can be at
fault; a larger count is refused by the reader. Every other fault of a count is an issue. -/
theorem reader_agrees_with_schema {value : Json} (distinct : value.keysDistinct) :
    (violations value = [] → ∃ members, value = .object members ∧
      ((∃ spec, DocumentSpec.ofJson value = .ok spec) ↔ CountFits members) ∧
      (CountFits members → ∀ limit e, ofJson value limit = .error e → ∃ d, e = .template d) ∧
      (¬ CountFits members → ∃ number,
        Json.find? members "count" = some (.number number) ∧
        ∀ limit, ofJson value limit = .error (.spec (.badCount number)))) ∧
    ∀ members, value = .object members → CountFails members → ∀ limit, ∃ issues,
      ofJson value limit = .error (.invalid issues) ∧ ∃ issue ∈ issues, AboutCount issue := by
  refine ⟨fun valid => ?_, ?_⟩
  · obtain ⟨members, n, filename, source, rfl, given, positive⟩ := violations_eq_nil_iff.mp valid
    have fits_iff : CountFits members ↔ n < 0x10000000000000000 := countFits_iff given
    have readable : (∃ spec, DocumentSpec.ofJson (.object members) = .ok spec) ↔
        n < 0x10000000000000000 := by
      simp only [DocumentSpec.ofJson_ok_iff_fits distinct given positive]
      exact ⟨fun ⟨_, small, _⟩ => small, fun small => ⟨_, small, rfl⟩⟩
    refine ⟨members, rfl, readable.trans fits_iff.symm, fun fits limit e failed => ?_,
      fun large => ?_⟩
    · obtain ⟨spec, read⟩ := readable.mpr (fits_iff.mp fits)
      rw [ofJson_of_valid valid, read] at failed
      exact ofSpec_error failed
    · obtain ⟨number, found, _⟩ := given.count
      rw [fits_iff, Nat.not_lt] at large
      refine ⟨number, found, fun limit => ?_⟩
      rw [ofJson_of_valid valid, DocumentSpec.ofJson_badCount distinct given found large]
  · rintro members rfl fails limit
    obtain ⟨issue, listed, about⟩ := exists_issue_of_countFails fails
    exact ⟨_, ofJson_of_violations (List.ne_nil_of_mem listed) limit, issue, listed, about⟩

theorem reader_agrees_with_schema_one_and_zero :
    let one : List (String × Json) :=
      [("count", .number (.float .one)), ("template", .object [("$array", .null)])]
    let zero : List (String × Json) :=
      [("template", .null), ("count", .number (.int 0 (by decide)))]
    (Json.object one).keysDistinct ∧ violations (.object one) = [] ∧ CountFits one ∧
      (∃ spec, DocumentSpec.ofJson (.object one) = .ok spec) ∧
      (∃ d, ofJson (.object one) 64 = .error (.template d)) ∧
      (Json.object zero).keysDistinct ∧ CountFails zero ∧
      ∃ issues, ofJson (.object zero) 64 = .error (.invalid issues) ∧
        ∃ issue ∈ issues, AboutCount issue := by
  intro one zero
  have valid : violations (.object one) = [] := by decide +kernel
  have fits : CountFits one := by
    rintro number n ⟨⟩ value
    have is_one : (JsonNumber.float .one).HasValue 1 := by
      show _ = _
      decide +kernel
    rw [value.unique is_one]
    decide
  have fails : CountFails zero := by
    rintro number n ⟨⟩ value
    obtain rfl : 0 = n := value
    decide
  obtain ⟨members, same, readable, only_template, _⟩ :=
    (@reader_agrees_with_schema (.object one) rfl).1 valid
  obtain rfl := Json.object.inj same
  obtain ⟨d, failed⟩ : ∃ d, ofJson (.object one) 64 = .error (.template d) := by
    obtain ⟨e, failed⟩ : ∃ e, ofJson (.object one) 64 = .error e := ⟨_, rfl⟩
    obtain ⟨d, rfl⟩ := only_template fits 64 e failed
    exact ⟨d, failed⟩
  have reported := (@reader_agrees_with_schema (.object zero) rfl).2 zero rfl fails 64
  exact ⟨rfl, valid, fits, readable.mpr fits, ⟨d, failed⟩, rfl, fails, reported⟩

/-- The schema accepts a count of `2 ^ 64`, which cannot be read. -/
theorem count_above_word :
    let count : JsonNumber :=
      .float ⟨false, 0x10000000000000, 12, by decide, by decide, by decide, by decide⟩
    let value : Json := .object [("count", .number count), ("template", .null)]
    value.keysDistinct ∧ count.HasValue 0x10000000000000000 ∧ violations value = [] ∧
      DocumentSpec.ofJson value = .error (.badCount count) ∧
      ∀ limit, ofJson value limit = .error (.spec (.badCount count)) := by
  intro count value
  have valid : violations value = [] := by decide +kernel
  have failed : DocumentSpec.ofJson value = .error (.badCount count) := rfl
  have exact_value : count.HasValue 0x10000000000000000 := by
    show _ = _
    decide +kernel
  refine ⟨rfl, exact_value, valid, failed, fun limit => ?_⟩
  rw [ofJson_of_valid valid, failed]

end Document

end MockData
