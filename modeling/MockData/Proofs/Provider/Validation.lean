import MockData.Proofs.Numeric.Rounding
import MockData.Proofs.Provider.Arguments
import MockData.Provider.Basic

/-!
# Which arguments are accepted

Arguments are accepted if every member is declared and of its kind and no required one is missing;
else the first member that is not, or the first missing one, is reported. Once arguments are
accepted, whatever is present can also be read. `read_exact` states all three.
-/

namespace MockData

/-- What a value of a kind looks like. An integer is signed, a count is not. -/
inductive ParameterKind.Describes : ParameterKind → Json → Prop where
  | int {n : Int} {fits : -0x8000000000000000 ≤ n ∧ n < 0x10000000000000000}
      (signed : n < 0x8000000000000000) : Describes .int (.number (.int n fits))
  | count {n : Int} {fits : -0x8000000000000000 ≤ n ∧ n < 0x10000000000000000}
      (natural : 0 ≤ n) : Describes .count (.number (.int n fits))
  | float (n : JsonNumber) : Describes .float (.number n)
  | string (s : String) : Describes .string (.string s)
  | timestamp {s : String} {t : Timestamp} (reads : Timestamp.parse? s = some t) :
      Describes .timestamp (.string s)
  | array (items : List Json) : Describes .array (.array items)

/-- Every JSON number has a nearest binary64 number. -/
theorem JsonNumber.exists_toBinary64? (n : JsonNumber) : ∃ x, n.toBinary64? = some x := by
  cases n with
  | float x => exact ⟨x, rfl⟩
  | int n fits =>
    obtain ⟨x, rounded⟩ := Binary64.exists_ofInt (show n.natAbs < 0x10000000000000000 by omega)
    exact ⟨x, by rw [toBinary64?, rounded]⟩

namespace ParameterKind

theorem accepts_int {value : Json} : int.accepts value ↔ int.Describes value := by
  constructor
  · intro accepted
    cases value with
    | number n =>
      cases n with
      | float x => exact absurd accepted Bool.false_ne_true
      | int n fits =>
        have signed : n < 0x8000000000000000 := by
          simpa [accepts, Json.toInt64?, JsonNumber.toInt64?] using accepted
        exact .int signed
    | _ => exact absurd accepted Bool.false_ne_true
  · intro described
    cases described with
    | int signed => simp [accepts, Json.toInt64?, JsonNumber.toInt64?, signed]

theorem accepts_count {value : Json} : count.accepts value ↔ count.Describes value := by
  constructor
  · intro accepted
    cases value with
    | number n =>
      cases n with
      | float x => exact absurd accepted Bool.false_ne_true
      | int n fits =>
        have natural : 0 ≤ n := by
          simpa [accepts, Json.toUInt64?, JsonNumber.toUInt64?] using accepted
        exact .count natural
    | _ => exact absurd accepted Bool.false_ne_true
  · intro described
    cases described with
    | count natural => simp [accepts, Json.toUInt64?, JsonNumber.toUInt64?, natural]

theorem accepts_float {value : Json} : float.accepts value ↔ float.Describes value := by
  constructor
  · intro accepted
    cases value with
    | number n => exact .float n
    | _ => exact nomatch accepted
  · intro described
    cases described with
    | float n =>
      obtain ⟨x, converted⟩ := n.exists_toBinary64?
      simp [accepts, Json.toBinary64?, converted]

theorem accepts_timestamp {value : Json} :
    timestamp.accepts value ↔ timestamp.Describes value := by
  constructor
  · intro accepted
    cases value with
    | string s =>
      obtain ⟨t, reads⟩ := Option.isSome_iff_exists.mp accepted
      exact .timestamp reads
    | _ => exact nomatch accepted
  · intro described
    cases described with
    | timestamp reads => exact Option.isSome_iff_exists.mpr ⟨_, reads⟩

/-- The check of a kind takes the values that the kind describes. -/
theorem accepts_iff {kind : ParameterKind} {value : Json} :
    kind.accepts value ↔ kind.Describes value := by
  cases kind with
  | int => exact accepts_int
  | count => exact accepts_count
  | float => exact accepts_float
  | timestamp => exact accepts_timestamp
  | string =>
    constructor
    · intro accepted
      cases value with
      | string s => exact .string s
      | _ => exact nomatch accepted
    · intro described
      cases described
      rfl
  | array =>
    constructor
    · intro accepted
      cases value with
      | array items => exact .array items
      | _ => exact nomatch accepted
    · intro described
      cases described
      rfl

end ParameterKind

namespace Arguments

/-- The getter of a kind finds a value under the key. -/
def gets (a : Arguments) (key : String) : ParameterKind → Bool
  | .int => (a.int? key).isSome
  | .count => (a.count? key).isSome
  | .float => (a.float? key).isSome
  | .string => (a.string? key).isSome
  | .timestamp => (a.timestamp? key).isSome
  | .array => (a.array? key).isSome

theorem gets_eq (a : Arguments) (key : String) (kind : ParameterKind) :
    a.gets key kind = (a.get? key).any kind.accepts := by
  cases kind <;> cases found : a.get? key <;>
    simp [gets, int?, count?, float?, string?, timestamp?, array?, ParameterKind.accepts, found]

section

variable (parameters : List Parameter)

def Fits (m : String × Json) : Prop :=
  ∃ p ∈ parameters, p.key = m.1 ∧ p.kind.Describes m.2

/-- A member that does not fit, behind members that do. -/
inductive Offends : List (String × Json) → ArgumentFault → Prop where
  | unknownKey {before after : List (String × Json)} {m : String × Json}
      (fit : ∀ n ∈ before, Fits parameters n) (unknown : ∀ p ∈ parameters, p.key ≠ m.1) :
      Offends (before ++ m :: after) (.unknownKey m.1)
  | wrongKind {before after : List (String × Json)} {p : Parameter} {value : Json}
      (fit : ∀ n ∈ before, Fits parameters n) (declared : p ∈ parameters)
      (other : ¬ p.kind.Describes value) :
      Offends (before ++ (p.key, value) :: after) (.wrongKind p.key)

/-- A required parameter that is not there, behind parameters that are not missing. -/
def Misses (members : List (String × Json)) (fault : ArgumentFault) : Prop :=
  ∃ before p after, parameters = before ++ p :: after ∧
    (∀ q ∈ before, q.required → Json.hasKey members q.key) ∧ p.required ∧
    Json.hasKey members p.key = false ∧ fault = .missing p.key

inductive Accepted : Option Json → Prop where
  | given {args : Option (List (String × Json))} (fit : ∀ m ∈ args.getD [], Fits parameters m)
      (present : ∀ p ∈ parameters, p.required → Json.hasKey (args.getD []) p.key) :
      Accepted (args.map .object)

inductive Refused : Option Json → ArgumentFault → Prop where
  | notObject {value : Json} (other : value.toObject? = none) : Refused (some value) .notObject
  | member {members : List (String × Json)} {fault : ArgumentFault}
      (offends : Offends parameters members fault) : Refused (some (.object members)) fault
  | missing {args : Option (List (String × Json))} {fault : ArgumentFault}
      (fit : ∀ m ∈ args.getD [], Fits parameters m)
      (misses : Misses parameters (args.getD []) fault) : Refused (args.map .object) fault

end

variable {parameters : List Parameter} {members rest : List (String × Json)} {m : String × Json}
  {fault : ArgumentFault}

/-! ### Members -/

theorem find_declared (distinct : (parameters.map Parameter.key).Nodup) {p : Parameter}
    (declared : p ∈ parameters) : (parameters.find? fun q => q.key = p.key) = some p := by
  cases found : parameters.find? fun q => q.key = p.key with
  | none =>
    have other := List.find?_eq_none.mp found p declared
    simp at other
  | some q => rw [declared_unique distinct declared found]

theorem checkMembers_declared (distinct : (parameters.map Parameter.key).Nodup) {p : Parameter}
    (declared : p ∈ parameters) (value : Json) :
    checkMembers parameters ((p.key, value) :: rest) =
      if p.kind.accepts value then checkMembers parameters rest else .error (.wrongKind p.key) := by
  rw [checkMembers, find_declared distinct declared]

theorem checkMembers_unknown (unknown : ∀ p ∈ parameters, p.key ≠ m.1) :
    checkMembers parameters (m :: rest) = .error (.unknownKey m.1) := by
  have none : (parameters.find? fun p => p.key = m.1) = none := by
    rw [List.find?_eq_none]
    intro p declared
    simpa using unknown p declared
  rw [checkMembers, none]

/-- Members that fit are passed over. -/
theorem checkMembers_append (distinct : (parameters.map Parameter.key).Nodup)
    (fit : ∀ m ∈ members, Fits parameters m) :
    checkMembers parameters (members ++ rest) = checkMembers parameters rest := by
  induction members with
  | nil => rfl
  | cons m before ih =>
    obtain ⟨first, others⟩ := List.forall_mem_cons.mp fit
    obtain ⟨p, declared, same, described⟩ := first
    obtain ⟨key, value⟩ := m
    obtain rfl : p.key = key := same
    rw [List.cons_append, checkMembers_declared distinct declared,
      if_pos (ParameterKind.accepts_iff.mpr described), ih others]

theorem Offends.unknown_first (unknown : ∀ p ∈ parameters, p.key ≠ m.1) :
    Offends parameters (m :: rest) (.unknownKey m.1) := by
  rw [← List.nil_append (m :: rest)]
  exact .unknownKey (List.forall_mem_nil _) unknown

theorem Offends.wrong_first {p : Parameter} {value : Json} (declared : p ∈ parameters)
    (other : ¬ p.kind.Describes value) :
    Offends parameters ((p.key, value) :: rest) (.wrongKind p.key) := by
  rw [← List.nil_append ((p.key, value) :: rest)]
  exact .wrongKind (List.forall_mem_nil _) declared other

theorem Offends.cons (first : Fits parameters m) (offends : Offends parameters members fault) :
    Offends parameters (m :: members) fault := by
  cases offends with
  | unknownKey fit unknown =>
    rw [← List.cons_append]
    exact .unknownKey (List.forall_mem_cons.mpr ⟨first, fit⟩) unknown
  | wrongKind fit declared other =>
    rw [← List.cons_append]
    exact .wrongKind (List.forall_mem_cons.mpr ⟨first, fit⟩) declared other

/-- Either all members fit and pass the check, or the first that does not fit is its fault. -/
theorem checkMembers_cases (distinct : (parameters.map Parameter.key).Nodup)
    (members : List (String × Json)) :
    ((∀ m ∈ members, Fits parameters m) ∧ checkMembers parameters members = .ok ()) ∨
      ∃ fault, Offends parameters members fault ∧
        checkMembers parameters members = .error fault := by
  induction members with
  | nil => exact .inl ⟨List.forall_mem_nil _, rfl⟩
  | cons m rest ih =>
    obtain ⟨key, value⟩ := m
    by_cases declared : ∃ p ∈ parameters, p.key = key
    · obtain ⟨p, declared, rfl⟩ := declared
      have checked : Arguments.checkMembers parameters ((p.key, value) :: rest) = _ :=
        checkMembers_declared distinct declared value
      by_cases described : p.kind.Describes value
      · have first : Fits parameters (p.key, value) := ⟨p, declared, rfl, described⟩
        rw [if_pos (ParameterKind.accepts_iff.mpr described)] at checked
        rw [checked]
        rcases ih with ⟨fit, passed⟩ | ⟨fault, offends, failed⟩
        · exact .inl ⟨List.forall_mem_cons.mpr ⟨first, fit⟩, passed⟩
        · exact .inr ⟨fault, offends.cons first, failed⟩
      · rw [if_neg (mt ParameterKind.accepts_iff.mp described)] at checked
        exact .inr ⟨_, .wrong_first declared described, checked⟩
    · have unknown : ∀ p ∈ parameters, p.key ≠ key := fun p member same =>
        declared ⟨p, member, same⟩
      exact .inr ⟨_, .unknown_first unknown, checkMembers_unknown unknown⟩

theorem Offends.checkMembers (distinct : (parameters.map Parameter.key).Nodup)
    (offends : Offends parameters members fault) :
    Arguments.checkMembers parameters members = .error fault := by
  cases offends with
  | unknownKey fit unknown =>
    rw [checkMembers_append distinct fit, checkMembers_unknown unknown]
  | wrongKind fit declared other =>
    rw [checkMembers_append distinct fit, checkMembers_declared distinct declared,
      if_neg (mt ParameterKind.accepts_iff.mp other)]

theorem checkMembers_ok_iff (distinct : (parameters.map Parameter.key).Nodup) :
    checkMembers parameters members = .ok () ↔ ∀ m ∈ members, Fits parameters m := by
  constructor
  · intro passed
    rcases checkMembers_cases distinct members with ⟨fit, _⟩ | ⟨fault, _, failed⟩
    · exact fit
    · exact nomatch passed.symm.trans failed
  · intro fit
    have all : Arguments.checkMembers parameters (members ++ []) = _ :=
      checkMembers_append distinct fit
    rwa [List.append_nil] at all

theorem checkMembers_error_iff (distinct : (parameters.map Parameter.key).Nodup) :
    checkMembers parameters members = .error fault ↔ Offends parameters members fault := by
  constructor
  · intro refused
    rcases checkMembers_cases distinct members with ⟨_, passed⟩ | ⟨other, offends, failed⟩
    · exact nomatch passed.symm.trans refused
    · obtain rfl := Except.error.inj (failed.symm.trans refused)
      exact offends
  · exact fun offends => offends.checkMembers distinct

/-! ### Required parameters -/

theorem checkRequired_ok_iff : checkRequired members parameters = .ok () ↔
    ∀ p ∈ parameters, p.required → Json.hasKey members p.key := by
  induction parameters with
  | nil => exact iff_of_true rfl (List.forall_mem_nil _)
  | cons p rest ih =>
    rw [checkRequired, List.forall_mem_cons, ← ih]
    cases p.required <;> cases Json.hasKey members p.key <;> simp

theorem checkRequired_error_iff : checkRequired members parameters = .error fault ↔
    Misses parameters members fault := by
  induction parameters with
  | nil =>
    constructor
    · intro failed
      cases failed
    · rintro ⟨before, p, after, same, _⟩
      exact absurd (List.append_eq_nil_iff.mp same.symm).2 (List.cons_ne_nil p after)
  | cons p rest ih =>
    rw [checkRequired]
    by_cases missing : p.required && !Json.hasKey members p.key
    · obtain ⟨required, absent⟩ : p.required = true ∧ Json.hasKey members p.key = false := by
        simpa using missing
      rw [if_pos missing]
      constructor
      · intro same
        exact ⟨[], p, rest, rfl, List.forall_mem_nil _, required, absent,
          (Except.error.inj same).symm⟩
      · rintro ⟨before, q, after, same, present, _, _, rfl⟩
        cases before with
        | nil =>
          cases same
          rfl
        | cons first before =>
          cases same
          have there := present p List.mem_cons_self required
          rw [absent] at there
          cases there
    · have there : p.required → Json.hasKey members p.key := by simpa using missing
      rw [if_neg missing, ih]
      constructor
      · rintro ⟨before, q, after, rfl, present, lost⟩
        exact ⟨p :: before, q, after, rfl, List.forall_mem_cons.mpr ⟨there, present⟩, lost⟩
      · rintro ⟨before, q, after, same, present, required, absent, named⟩
        cases before with
        | nil =>
          cases same
          have here := there required
          rw [absent] at here
          cases here
        | cons first before =>
          cases same
          exact ⟨before, q, after, rfl, (List.forall_mem_cons.mp present).2, required, absent, named⟩

/-! ### The whole check -/

theorem read_ok_iff (distinct : (parameters.map Parameter.key).Nodup) {params : Option Json} :
    (∃ a, read parameters params = .ok a) ↔ Accepted parameters params := by
  constructor
  · rintro ⟨a, accepted⟩
    obtain ⟨args, rfl, _, checked, required⟩ := read_ok accepted
    exact .given ((checkMembers_ok_iff distinct).mp checked) (checkRequired_ok_iff.mp required)
  · rintro ⟨fit, present⟩
    rw [read_given, (checkMembers_ok_iff distinct).mpr fit, checkRequired_ok_iff.mpr present]
    exact ⟨_, rfl⟩

theorem read_error_iff (distinct : (parameters.map Parameter.key).Nodup) {params : Option Json} :
    read parameters params = .error fault ↔ Refused parameters params fault := by
  constructor
  · intro refused
    by_cases object : ∃ args : Option (List (String × Json)), params = args.map .object
    · obtain ⟨args, rfl⟩ := object
      rw [read_given] at refused
      rcases bind_error.mp refused with offends | ⟨_, passed, refused⟩
      · cases args with
        | none => exact nomatch offends
        | some members => exact .member ((checkMembers_error_iff distinct).mp offends)
      · rcases bind_error.mp refused with misses | ⟨_, _, result⟩
        · exact .missing ((checkMembers_ok_iff distinct).mp passed)
            (checkRequired_error_iff.mp misses)
        · exact nomatch result
    · cases params with
      | none => exact absurd ⟨none, rfl⟩ object
      | some value =>
        cases value with
        | object members => exact absurd ⟨some members, rfl⟩ object
        | _ =>
          cases refused
          exact .notObject rfl
  · intro refused
    cases refused with
    | @notObject value other => cases value <;> first | rfl | exact nomatch other
    | @member members _ offends =>
      have failed := (checkMembers_error_iff distinct).mpr offends
      exact (read_given parameters (some members)).trans (bind_error.mpr (.inl failed))
    | missing fit misses =>
      rw [read_given, (checkMembers_ok_iff distinct).mpr fit, checkRequired_error_iff.mpr misses]
      rfl

theorem get?_of_read {params : Option Json} {a : Arguments}
    (accepted : read parameters params = .ok a) (key : String) :
    a.get? key = params.bind fun value => value.member? key := by
  obtain ⟨args, rfl, rfl, _⟩ := read_ok accepted
  cases args <;> rfl

/-- What is under the key of a parameter is of its kind, so its getter finds it. -/
theorem gets_of_read (distinct : (parameters.map Parameter.key).Nodup) {params : Option Json}
    {a : Arguments} (accepted : read parameters params = .ok a) {p : Parameter}
    (declared : p ∈ parameters) : a.gets p.key p.kind = (a.get? p.key).isSome := by
  rw [gets_eq]
  cases found : a.get? p.key with
  | none => rfl
  | some value =>
    obtain ⟨args, rfl, rfl, checked, _⟩ := read_ok accepted
    have member := Json.mem_of_find? found
    obtain ⟨q, same, kind⟩ := accepts_of_checkMembers checked member
    obtain rfl := declared_unique distinct declared same
    exact kind

/-- Arguments are accepted if and only if they are left out or an object, every member belongs to a
parameter and is of its kind, and every required parameter is there. Then the getters look up what
the call was given, and that of a parameter's kind finds a value whenever one is there. Otherwise
the first member that does not fit is reported, and a missing parameter only if all members fit. The
message names the key that is at fault. -/
theorem read_exact (distinct : (parameters.map Parameter.key).Nodup) (params : Option Json) :
    ((∃ a, read parameters params = .ok a) ↔ Accepted parameters params) ∧
    (∀ a, read parameters params = .ok a →
      (∀ key, a.get? key = params.bind fun value => value.member? key) ∧
      ∀ p ∈ parameters, a.gets p.key p.kind ↔
        (params.bind fun value => value.member? p.key).isSome) ∧
    (∀ (context : String) (fault : ArgumentFault),
      (ProviderError.invalid context fault).message = context ++ ": " ++ fault.text ∧
      (read parameters params = .error fault ↔ Refused parameters params fault)) ∧
    ∀ context key : String,
      let message fault := (ProviderError.invalid context fault).message
      message .notObject = context ++ ": " ++ "params must be a JSON object" ∧
      message (.unknownKey key) = context ++ ": " ++ ("unknown param '" ++ key ++ "'") ∧
      message (.wrongKind key) = context ++ ": " ++ ("invalid value for param '" ++ key ++ "'") ∧
      message (.missing key) = context ++ ": " ++ ("missing required param '" ++ key ++ "'") := by
  refine ⟨read_ok_iff distinct, fun a accepted => ⟨get?_of_read accepted, ?_⟩,
    fun context fault => ⟨rfl, read_error_iff distinct⟩, fun context key => ⟨rfl, rfl, rfl, rfl⟩⟩
  intro p declared
  rw [gets_of_read distinct accepted declared, get?_of_read accepted]

theorem read_exact_borders :
    let parameters : List Parameter :=
      [⟨"min", .int, false⟩, ⟨"count", .count, false⟩, ⟨"from", .timestamp, true⟩]
    let most : Json := .ofUInt64 18446744073709551615
    let fitting : List (String × Json) := [("count", most), ("from", .string "2024-02-29")]
    let failing : List (String × Json) :=
      [("count", .ofUInt64 0), ("min", .ofUInt64 9223372036854775808), ("from", .null)]
    (parameters.map Parameter.key).Nodup ∧
      read parameters (some (.object fitting)) = .ok ⟨fitting⟩ ∧
      gets ⟨fitting⟩ "count" .count ∧ gets ⟨fitting⟩ "min" .int = false ∧
      read parameters (some (.object failing)) = .error (.wrongKind "min") ∧
      read parameters none = .error (.missing "from") := by
  intro parameters most fitting failing
  have distinct : (parameters.map Parameter.key).Nodup := by decide
  have accepted : read parameters (some (.object fitting)) = .ok ⟨fitting⟩ := by rfl
  obtain ⟨_, getters, _⟩ := read_exact distinct (some (.object fitting))
  have finds := (getters _ accepted).2
  have count : gets ⟨fitting⟩ "count" .count :=
    (finds ⟨"count", .count, false⟩ (by decide)).mpr rfl
  have min : ¬ gets ⟨fitting⟩ "min" .int := by
    rw [finds ⟨"min", .int, false⟩ (by decide)]
    decide
  obtain ⟨_, _, refusals, _⟩ := read_exact distinct (some (.object failing))
  have wrong : read parameters (some (.object failing)) = .error (.wrongKind "min") := by
    have count : Fits parameters ("count", .ofUInt64 0) :=
      ⟨⟨"count", .count, false⟩, by decide, rfl, .count (Int.natCast_nonneg _)⟩
    have declared : (⟨"min", .int, false⟩ : Parameter) ∈ parameters := by decide
    refine (refusals "number.int" _).2.mpr (.member (.cons count (.wrong_first declared ?_)))
    intro described
    cases described with
    | int signed => exact absurd signed (by decide)
  obtain ⟨_, _, refusals, _⟩ := read_exact distinct none
  have missing : read parameters none = .error (.missing "from") := by
    refine (refusals "date.between" _).2.mpr ?_
    have misses : Misses parameters [] (.missing "from") :=
      ⟨parameters.take 2, ⟨"from", .timestamp, true⟩, [], rfl, by decide, rfl, rfl, rfl⟩
    exact @Refused.missing _ none _ (List.forall_mem_nil _) misses
  exact ⟨distinct, accepted, count, eq_false_of_ne_true min, wrong, missing⟩

end Arguments

end MockData
