import MockData.Proofs.Provider.Builtin
import MockData.Proofs.Provider.ContextUse

/-!
# Rejected calls

Whether a built-in provider rejects a call, and with which error, is settled by the arguments, and
by the reference time of the record where dates lie around it and no other is given. Arguments that
do not fit the declared parameters are rejected before anything is drawn. Both are stated in
`rejection_by_arguments`.
-/

namespace MockData

theorem ParameterKind.accepts_null (kind : ParameterKind) : kind.accepts .null = false := by
  cases kind <;> rfl

namespace Arguments

inductive Unfit (parameters : List Parameter) : Option Json → Prop where
  | notObject {value : Json} (other : value.toObject? = none) : Unfit parameters (some value)
  | undeclared {members : List (String × Json)} {m : String × Json} (member : m ∈ members)
      (unknown : ∀ p ∈ parameters, p.key ≠ m.1) : Unfit parameters (some (.object members))
  | wrongKind {members : List (String × Json)} {p : Parameter} {value : Json}
      (declared : p ∈ parameters) (member : (p.key, value) ∈ members)
      (other : p.kind.accepts value = false) : Unfit parameters (some (.object members))
  | null {members : List (String × Json)} {p : Parameter} (declared : p ∈ parameters)
      (member : (p.key, .null) ∈ members) : Unfit parameters (some (.object members))
  | missing {args : Option Json} {p : Parameter} (declared : p ∈ parameters)
      (required : p.required) (absent : (args.bind fun value => value.member? p.key) = none) :
      Unfit parameters args

variable {parameters : List Parameter} {args : Option Json}

theorem accepts_of_read (distinct : (parameters.map Parameter.key).Nodup)
    {members : List (String × Json)} {a : Arguments}
    (accepted : read parameters (some (.object members)) = .ok a) {p : Parameter} {value : Json}
    (declared : p ∈ parameters) (member : (p.key, value) ∈ members) : p.kind.accepts value := by
  obtain ⟨rfl, checked⟩ := read_object_ok accepted
  obtain ⟨q, found, kind⟩ := accepts_of_checkMembers checked member
  obtain rfl := declared_unique distinct declared found
  exact kind

theorem Unfit.refused (distinct : (parameters.map Parameter.key).Nodup)
    (unfit : Unfit parameters args) : ∃ fault, read parameters args = .error fault := by
  cases read : read parameters args with
  | error fault => exact ⟨fault, rfl⟩
  | ok a =>
    exfalso
    obtain ⟨given, same, _, _, required⟩ := read_ok read
    cases unfit with
    | notObject other =>
      cases given with
      | none => exact nomatch same
      | some members =>
        cases same
        exact nomatch other
    | undeclared member unknown =>
      obtain ⟨rfl, checked⟩ := read_object_ok read
      obtain ⟨p, found, _⟩ := accepts_of_checkMembers checked member
      have key := List.find?_some found
      exact unknown p (List.mem_of_find?_eq_some found) (of_decide_eq_true key)
    | wrongKind declared member other =>
      have kind := accepts_of_read distinct read declared member
      rw [other] at kind
      exact nomatch kind
    | null declared member =>
      have kind := accepts_of_read distinct read declared member
      rw [ParameterKind.accepts_null] at kind
      exact nomatch kind
    | missing declared needed absent =>
      have present := hasKey_of_checkRequired required declared needed
      cases given with
      | none => exact nomatch present
      | some object =>
        subst same
        change Json.find? object _ = none at absent
        rw [Option.getD_some, Json.hasKey, absent] at present
        exact Bool.false_ne_true present

end Arguments

namespace Provider

variable {σ δ : Type} {path : String} {parameters : List Parameter}
  {verdict : Timestamp → Arguments → Except Rejection δ}
  {carry : RecordContext → δ → Draw σ (Except ProviderError Json)}
  {c d : RecordContext} {args : Option Json}

/-- What is drawn after an accepted call is a value, unless the program ends. -/
def Fulfils (carry : RecordContext → δ → Draw σ (Except ProviderError Json)) : Prop :=
  ∀ c accepted s e, (carry c accepted s).1 = .error e → e = .emptyRange

theorem fulfils_drawPlanned : Fulfils (drawPlanned : RecordContext → _ → Draw σ _) :=
  fun _ _ _ _ failed => nomatch failed

variable [RandomSource σ]

theorem carryOut_error (fulfils : Fulfils carry) {outcome : Except Rejection δ} {s : σ}
    {e : ProviderError} (returned : e ≠ .emptyRange) :
    (carryOut path (carry c) outcome s).1 = .error e ↔
      ∃ reason drawn, outcome = .error (.fault reason drawn) ∧ .invalid path reason = e := by
  cases outcome with
  | ok accepted =>
    have never : (carry c accepted s).1 ≠ .error e :=
      fun failed => returned (fulfils c accepted s e failed)
    exact iff_of_false never fun ⟨_, _, same, _⟩ => nomatch same
  | error rejection =>
    cases rejection with
    | fault reason drawn =>
      have ends : (carryOut path (carry c) (.error (.fault reason drawn)) s).1 =
          .error (.invalid path reason) := rfl
      simp [ends]
    | emptyRange =>
      have ends : (carryOut path (carry c) (.error .emptyRange) s).1 = .error .emptyRange := rfl
      rw [ends]
      exact iff_of_false (fun same => returned (Except.error.inj same).symm)
        fun ⟨_, _, same, _⟩ => nomatch same

/-- A call is rejected by the check of its arguments or by its verdict, whatever is drawn. -/
theorem decided_error (fulfils : Fulfils carry) {s : σ} {e : ProviderError}
    (returned : e ≠ .emptyRange) :
    (decided path parameters verdict carry c args s).1 = .error e ↔
      (∃ fault, Arguments.read parameters args = .error fault ∧ .invalid path fault = e) ∨
      ∃ a reason drawn, Arguments.read parameters args = .ok a ∧
        verdict c.reference a = .error (.fault reason drawn) ∧ .invalid path reason = e := by
  cases read : Arguments.read parameters args with
  | error fault => simp [decided_refused read]
  | ok a =>
    rw [decided_accepted read, carryOut_error fulfils returned]
    simp

theorem decided_error_congr (fulfils : Fulfils carry)
    (alike : ∀ a, Arguments.read parameters args = .ok a →
      verdict c.reference a = verdict d.reference a)
    (s t : σ) {e : ProviderError} (returned : e ≠ .emptyRange) :
    (decided path parameters verdict carry c args s).1 = .error e ↔
      (decided path parameters verdict carry d args t).1 = .error e := by
  rw [decided_error fulfils returned, decided_error fulfils returned]
  apply or_congr Iff.rfl
  apply exists_congr
  intro a
  refine exists_congr fun reason => exists_congr fun drawn => ?_
  apply and_congr_right
  intro accepted
  rw [alike a accepted]

end Provider

theorem Dates.fulfils_drawWindow {σ : Type} [RandomSource σ] :
    Provider.Fulfils fun _ => drawWindow (σ := σ) := by
  intro c window s e failed
  have shown : (drawWindow window s).1 =
      if (instantBetween window.1 window.2 s).1.isRepresentable then
        .ok (.string (instantBetween window.1 window.2 s).1.iso) else .error .emptyRange := rfl
  rw [shown] at failed
  split at failed
  · exact nomatch failed
  · exact (Except.error.inj failed).symm

namespace Builtin

/-- The parameters that the built-in providers declare; one that is not listed has none. -/
def declarations : List (String × List Parameter) :=
  [("number.int", Numbers.intParameters),
   ("number.float", Numbers.floatParameters),
   ("number.sequence", Numbers.sequenceParameters),
   ("datatype.boolean", Numbers.booleanParameters),
   ("string.alpha", Strings.alphabetParameters),
   ("string.alphanumeric", Strings.alphabetParameters),
   ("string.numeric", Strings.alphabetParameters),
   ("string.pattern", Strings.patternParameters),
   ("date.between", Dates.betweenParameters),
   ("date.past", Dates.relativeParameters .years),
   ("date.future", Dates.relativeParameters .years),
   ("date.recent", Dates.relativeParameters .days),
   ("date.birthdate", Dates.birthdateParameters),
   ("finance.amount", Numbers.amountParameters),
   ("location.latitude", Numbers.coordinateParameters),
   ("location.longitude", Numbers.coordinateParameters),
   ("helpers.arrayElement", [⟨"values", .array, true⟩]),
   ("lorem.words", Lorem.wordsParameters),
   ("lorem.sentence", Lorem.sentenceParameters),
   ("lorem.paragraph", Lorem.paragraphParameters),
   ("internet.password", Catalog.passwordParameters)]

def declared (path : String) : List Parameter := (declarations.lookup path).getD []

theorem declared_distinct (path : String) : ((declared path).map Parameter.key).Nodup := by
  have each : ∀ entry ∈ declarations, (entry.2.map Parameter.key).Nodup := by decide
  unfold declared
  cases found : declarations.lookup path with
  | none => exact List.nodup_nil
  | some parameters =>
    obtain ⟨before, after, same, _⟩ := List.lookup_eq_some_iff.mp found
    apply each (path, parameters)
    simp [same]

variable {σ : Type} [RandomSource σ] {unit : Dates.SpanUnit}

/-- A built-in provider checks the parameters that it declares. Its verdict knows the reference time
of the record at most as the one that relative dates refer to. -/
inductive Form : String × Provider σ → Prop where
  | fixed {path : String} {parameters : List Parameter} (own : declared path = parameters)
      {δ : Type} (verdict : Arguments → Except Rejection δ)
      {carry : RecordContext → δ → Draw σ (Except ProviderError Json)}
      (fulfils : Provider.Fulfils carry) :
      Form (path, .decided path parameters (fun _ => verdict) carry)
  | relative {path : String} {parameters : List Parameter} (own : declared path = parameters)
      (listed : path ∈ Dates.relativePaths)
      (dated : (parameters.find? fun p => p.key = "refDate") = some ⟨"refDate", .timestamp, false⟩)
      {window : Timestamp → Arguments → Except Rejection (Timestamp × Timestamp)}
      (refers : ∀ t u a, Dates.referenceOf t a = Dates.referenceOf u a → window t a = window u a) :
      Form (path, Dates.windowed path parameters window)

theorem form_planned {path : String} {parameters : List Parameter}
    (own : declared path = parameters) (plan : Arguments → Plan σ) :
    Form (path, .planned path parameters fun _ => plan) :=
  .fixed own plan Provider.fulfils_drawPlanned

theorem form_fromAlphabet {path : String} (own : declared path = Strings.alphabetParameters)
    (alphabet : List Char) : Form (path, (Strings.fromAlphabet path alphabet : Provider σ)) :=
  form_planned own _

theorem form_coordinate {path : String} (own : declared path = Numbers.coordinateParameters)
    (bound : Binary64) (boundText : String) :
    Form (path, (Numbers.coordinate path bound boundText : Provider σ)) := form_planned own _

theorem form_between : Form ("date.between", (Dates.between : Provider σ)) :=
  .fixed rfl _ Dates.fulfils_drawWindow

theorem form_relative {path : String} (own : declared path = Dates.relativeParameters unit)
    (listed : path ∈ Dates.relativePaths) (direction : Dates.Direction) :
    Form (path, (Dates.relative path direction unit : Provider σ)) := by
  apply Form.relative own listed
  · cases unit <;> rfl
  · intro t u a same
    rw [same]

theorem form_birthdate : Form ("date.birthdate", (Dates.birthdate : Provider σ)) := by
  apply Form.relative rfl (by decide) rfl
  intro t u a same
  dsimp only
  rw [same]

theorem form_of_composed : ∀ entry ∈ (composed : List (String × Provider σ)), Form entry := by
  have listed : "date.past" ∈ Dates.relativePaths ∧ "date.future" ∈ Dates.relativePaths ∧
      "date.recent" ∈ Dates.relativePaths := by decide
  obtain ⟨past, future, recent⟩ := listed
  simp only [composed, List.forall_mem_cons]
  exact ⟨form_planned rfl _, form_planned rfl _, form_planned rfl _, form_planned rfl _,
    form_planned rfl _, form_fromAlphabet rfl _, form_fromAlphabet rfl _, form_fromAlphabet rfl _,
    form_planned rfl _, form_between, form_relative rfl past _, form_relative rfl future _,
    form_relative rfl recent _, form_birthdate, form_planned rfl _, form_coordinate rfl _ _,
    form_coordinate rfl _ _, form_planned rfl _, form_planned rfl _, form_planned rfl _,
    form_planned rfl _, form_planned rfl _, form_planned rfl _, List.forall_mem_nil _⟩

theorem declared_catalog : ∀ path ∈ Catalog.paths σ, declared path = [] := by
  simp only [Catalog.paths, Catalog.entries, List.map_cons, List.map_nil, List.forall_mem_cons]
  decide

theorem form_of_mem : ∀ entry ∈ (providers : List (String × Provider σ)), Form entry := by
  intro entry member
  rcases List.mem_append.mp member with composed | localized
  · exact form_of_composed entry composed
  · obtain ⟨⟨path, text⟩, listed, rfl⟩ := List.mem_map.mp localized
    have named : path ∈ Catalog.paths σ := List.mem_map_of_mem listed
    exact form_planned (declared_catalog path named) _

theorem form_of_resolve {path : String} {p : Provider σ}
    (found : registry.resolve path = .ok p) : Form (path, p) :=
  form_of_mem _ (resolve_iff_mem.mp found)

/-- Records with the same reference time as far as it counts are rejected alike. -/
theorem Form.error_congr {path : String} {p : Provider σ} (form : Form (path, p))
    {args : Option Json} {c d : RecordContext}
    (same : path ∈ Dates.relativePaths →
      (args.bind fun value => value.member? "refDate") = none → c.reference = d.reference)
    (s t : σ) {e : ProviderError} (returned : e ≠ .emptyRange) :
    (p c args s).1 = .error e ↔ (p d args t).1 = .error e := by
  cases form with
  | fixed own verdict fulfils =>
    apply Provider.decided_error_congr fulfils _ s t returned
    intro a _
    rfl
  | relative own listed dated refers =>
    apply Provider.decided_error_congr Dates.fulfils_drawWindow _ s t returned
    intro a accepted
    obtain ⟨given, rfl, _⟩ := Arguments.read_ok accepted
    have undated : Dates.dated given = false → c.reference = d.reference := by
      intro absent
      apply same listed
      cases given with
      | none => rfl
      | some members =>
        have missing : Json.find? members "refDate" = none := by
          simpa [Dates.dated, Json.hasKey] using absent
        exact missing
    exact refers _ _ a (Dates.referenceOf_congr undated dated accepted)

theorem Form.refuses {path : String} {p : Provider σ} (form : Form (path, p)) {args : Option Json}
    (unfit : Arguments.Unfit (declared path) args) (c : RecordContext) (s : σ) :
    ∃ fault, p c args s = (.error (.invalid path fault), s) := by
  obtain ⟨fault, refused⟩ := unfit.refused (declared_distinct path)
  refine ⟨fault, ?_⟩
  cases form with
  | fixed own _ _ => exact Provider.decided_refused (own ▸ refused) s
  | relative own _ _ _ => exact Provider.decided_refused (own ▸ refused) s

/-- Whether a built-in provider returns an error, and which one, does not depend on the index or the
locale of the record nor on what the random source gives. It depends on the reference time only at
the paths of relative dates and only if the arguments have none. A call that ends the program returns
nothing. Arguments that do not fit the declared parameters are invalid, and nothing is drawn before
they are rejected. -/
theorem rejection_by_arguments {path : String} {p : Provider σ}
    (found : registry.resolve path = .ok p) (args : Option Json) :
    (∀ (c d : RecordContext) (s t : σ),
      (path ∈ Dates.relativePaths → (args.bind fun value => value.member? "refDate") = none →
        c.reference = d.reference) →
      ∀ e, e ≠ .emptyRange → ((p c args s).1 = .error e ↔ (p d args t).1 = .error e)) ∧
    (Arguments.Unfit (declared path) args →
      ∀ c s, ∃ fault, p c args s = (.error (.invalid path fault), s)) := by
  have form := form_of_resolve found
  constructor
  · intro c d s t same e returned
    exact form.error_congr same s t returned
  · intro unfit c s
    exact form.refuses unfit c s

theorem rejection_by_arguments_dates :
    let dated : Option Json :=
      some (.object [("years", .ofUInt64 300000), ("refDate", .string "2024-01-01")])
    let unfit : Option Json := some (.object [("years", .ofUInt64 1), ("refDate", .null)])
    registry.resolve "date.past" = .ok (Dates.past : Provider Script) ∧
      (∀ (s t : Script) e, e ≠ .emptyRange →
        ((Dates.past ⟨0, .enUS, .midnight 0⟩ dated s).1 = .error e ↔
          (Dates.past ⟨7, .ptBR, .midnight 700000⟩ dated t).1 = .error e)) ∧
      ∀ c (s : Script), ∃ fault, Dates.past c unfit s = (.error (.invalid "date.past" fault), s) := by
  intro dated unfit
  have found : registry.resolve "date.past" = .ok (Dates.past : Provider Script) :=
    resolve_of_composed (by simp [composed])
  have null : Arguments.Unfit (declared "date.past") unfit :=
    .null (p := ⟨"refDate", .timestamp, false⟩) (by decide) (by simp)
  refine ⟨found, ?_, (rejection_by_arguments found unfit).2 null⟩
  have given : (dated.bind fun value => value.member? "refDate") ≠ none := Option.some_ne_none _
  intro s t
  exact (rejection_by_arguments found dated).1 _ _ s t fun _ undated => absurd undated given

end Builtin

end MockData
