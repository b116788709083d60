import MockData.Proofs.Provider.Arguments
import MockData.Provider.Builtin

/-!
# What built-in providers use of the record

Of the record that it makes a value for, a built-in provider uses little. A sequence uses the index,
the catalog uses the locale, and dates around a reference time use the one of the record if they are
given none. What else they do, and how often they draw, is the same for every record.
-/

namespace MockData

theorem Plan.drawing_of {σ : Type} {inhabited : Bool} (holds : inhabited = true)
    (draw : RecordContext → Draw σ Json) : Plan.drawing inhabited draw = .ok draw := if_pos holds

namespace Provider

variable {σ : Type}

def Blind (p : Provider σ) : Prop := ∀ c d args, p c args = p d args

/-- What is drawn is the same for every record. -/
def Steady (plan : Plan σ) : Prop := ∀ c d, plan.map (· c) = plan.map (· d)

@[simp] theorem steady_error (rejection : Rejection) : Steady (.error rejection : Plan σ) :=
  fun _ _ => rfl

@[simp] theorem steady_ok (draw : Draw σ Json) : Steady (.ok fun _ => draw) := fun _ _ => rfl

@[simp] theorem steady_drawing (inhabited : Bool) (draw : Draw σ Json) :
    Steady (.drawing inhabited fun _ => draw) := by
  unfold Plan.drawing
  split
  · exact steady_ok draw
  · exact steady_error .emptyRange

variable [RandomSource σ] {path : String} {parameters : List Parameter} {c d : RecordContext}

section

variable {δ : Type} {verdict : Timestamp → Arguments → Except Rejection δ}
  {carry : RecordContext → δ → Draw σ (Except ProviderError Json)} {args : Option Json}

def carryOut (path : String) (carry : δ → Draw σ (Except ProviderError Json)) :
    Except Rejection δ → Draw σ (Except ProviderError Json)
  | .error (.fault fault drawn) => do
    spend drawn
    return .error (.invalid path fault)
  | .error .emptyRange => return .error .emptyRange
  | .ok accepted => carry accepted

theorem decided_refused {fault : ArgumentFault}
    (refused : Arguments.read parameters args = .error fault) (s : σ) :
    decided path parameters verdict carry c args s = (.error (.invalid path fault), s) := by
  unfold decided
  rw [refused]
  rfl

theorem decided_accepted {a : Arguments} (accepted : Arguments.read parameters args = .ok a) :
    decided path parameters verdict carry c args =
      carryOut path (carry c) (verdict c.reference a) := by
  unfold decided
  rw [accepted]
  dsimp only
  cases verdict c.reference a with
  | error rejection => cases rejection <;> rfl
  | ok accepted => rfl

theorem carryOut_ok {outcome : Except Rejection δ} {s : σ} {v : Json} :
    (carryOut path (carry c) outcome s).1 = .ok v ↔
      ∃ accepted, outcome = .ok accepted ∧ (carry c accepted s).1 = .ok v := by
  cases outcome with
  | ok accepted =>
    have carried : carryOut path (carry c) (.ok accepted) s = carry c accepted s := rfl
    simp [carried]
  | error rejection =>
    have never : (carryOut path (carry c) (.error rejection) s).1 ≠ .ok v := by
      cases rejection <;> exact fun given => nomatch given
    exact iff_of_false never fun ⟨_, same, _⟩ => nomatch same

/-- A value comes from carrying out what accepted arguments lead to. -/
theorem decided_ok {s : σ} {v : Json} :
    (decided path parameters verdict carry c args s).1 = .ok v ↔
      ∃ a accepted, Arguments.read parameters args = .ok a ∧
        verdict c.reference a = .ok accepted ∧ (carry c accepted s).1 = .ok v := by
  cases read : Arguments.read parameters args with
  | error fault => simp [decided_refused read]
  | ok a =>
    rw [decided_accepted read, carryOut_ok]
    simp

theorem carryOut_ends {outcome : Except Rejection δ} {s : σ} :
    (carryOut path (carry c) outcome s).1 = .error .emptyRange ↔ outcome = .error .emptyRange ∨
      ∃ accepted, outcome = .ok accepted ∧ (carry c accepted s).1 = .error .emptyRange := by
  cases outcome with
  | ok accepted =>
    have carried : carryOut path (carry c) (.ok accepted) s = carry c accepted s := rfl
    simp [carried]
  | error rejection =>
    cases rejection with
    | fault reason drawn =>
      have ends : (carryOut path (carry c) (.error (.fault reason drawn)) s).1 =
          .error (.invalid path reason) := rfl
      simp [ends]
    | emptyRange =>
      have ends : (carryOut path (carry c) (.error .emptyRange) s).1 = .error .emptyRange := rfl
      simp [ends]

/-- Only a call with accepted arguments ends the program. -/
theorem decided_ends {s : σ} :
    (decided path parameters verdict carry c args s).1 = .error .emptyRange ↔
      ∃ a, Arguments.read parameters args = .ok a ∧ (verdict c.reference a = .error .emptyRange ∨
        ∃ accepted, verdict c.reference a = .ok accepted ∧
          (carry c accepted s).1 = .error .emptyRange) := by
  cases read : Arguments.read parameters args with
  | error fault => simp [decided_refused read]
  | ok a =>
    rw [decided_accepted read, carryOut_ends]
    simp

theorem decided_congr
    (alike : ∀ a, Arguments.read parameters args = .ok a →
      carryOut path (carry c) (verdict c.reference a) =
        carryOut path (carry d) (verdict d.reference a)) :
    decided path parameters verdict carry c args =
      decided path parameters verdict carry d args := by
  cases accepted : Arguments.read parameters args with
  | error fault =>
    unfold decided
    rw [accepted]
  | ok a => rw [decided_accepted accepted, decided_accepted accepted, alike a accepted]

end

theorem planned_accepted {plan : Timestamp → Arguments → Plan σ} {args : Option Json}
    {a : Arguments} (accepted : Arguments.read parameters args = .ok a) :
    planned path parameters plan c args =
      carryOut path (drawPlanned c) (plan c.reference a) := decided_accepted accepted

/-- A call that gives a value once follows a draw always. -/
theorem planned_ok {plan : Timestamp → Arguments → Plan σ} {args : Option Json} {a : Arguments}
    (accepted : Arguments.read parameters args = .ok a) {t : σ} {v : Json}
    (given : (planned path parameters plan c args t).1 = .ok v) :
    ∃ draw, plan c.reference a = .ok draw ∧
      ∀ s, (planned path parameters plan c args s).1 = .ok (draw c s).1 := by
  rw [planned_accepted accepted] at given ⊢
  cases made : plan c.reference a with
  | ok draw => exact ⟨draw, rfl, fun s => rfl⟩
  | error rejection =>
    rw [made] at given
    cases rejection <;> exact nomatch given

theorem planned_congr {plan : Timestamp → Arguments → Plan σ} {args : Option Json}
    (alike : ∀ a, Arguments.read parameters args = .ok a →
      (plan c.reference a).map (· c) = (plan d.reference a).map (· d)) :
    planned path parameters plan c args = planned path parameters plan d args := by
  -- Only the draws for the two records count.
  have drawn (context : RecordContext) (plan : Plan σ) :
      carryOut path (drawPlanned context) plan =
        carryOut path (fun draw : Draw σ Json => do return .ok (← draw))
          (plan.map (· context)) := by
    cases plan with
    | error rejection => cases rejection <;> rfl
    | ok draw => rfl
  apply decided_congr
  intro a accepted
  rw [drawn, drawn, alike a accepted]

theorem blind_planned {plan : Arguments → Plan σ} (steady : ∀ a, Steady (plan a)) :
    Blind (planned path parameters fun _ a => plan a) :=
  fun c d _ => planned_congr fun a _ => steady a c d

end Provider

open Provider

variable {σ : Type} [RandomSource σ]

/-! ### Providers that use nothing of the record -/

namespace Numbers

theorem int_blind : Blind (int : Provider σ) := by
  refine blind_planned fun a => ?_
  dsimp only
  split <;> simp

theorem float_blind : Blind (float : Provider σ) := by
  refine blind_planned fun a => ?_
  dsimp only
  split
  · exact steady_error _
  · split
    · exact steady_error _
    · split
      · exact steady_ok _
      · split <;> simp

theorem amount_blind : Blind (amount : Provider σ) := by
  refine blind_planned fun a => ?_
  dsimp only
  split
  · exact steady_error _
  · split
    · exact steady_error _
    · split <;> simp

theorem coordinate_blind (path : String) (bound : Binary64) (boundText : String) :
    Blind (coordinate path bound boundText : Provider σ) := by
  refine blind_planned fun a => ?_
  dsimp only
  split
  · exact steady_error _
  · split <;> simp

theorem boolean_blind : Blind (boolean : Provider σ) := by
  refine blind_planned fun a => ?_
  dsimp only
  split <;> simp

end Numbers

namespace Strings

theorem uuid_blind : Blind (uuid : Provider σ) := blind_planned fun _ => steady_ok _

theorem fromAlphabet_blind (path : String) (alphabet : List Char) :
    Blind (fromAlphabet path alphabet : Provider σ) := blind_planned fun _ => steady_drawing _ _

theorem pattern_blind : Blind (pattern : Provider σ) := by
  refine blind_planned fun a => ?_
  cases a.string? "pattern" with
  | none => exact steady_error _
  | some text =>
    dsimp only
    split
    · exact steady_error _
    · split
      · exact steady_error _
      · split <;> simp

end Strings

namespace Lorem

theorem word_blind : Blind (word : Provider σ) := blind_planned fun _ => steady_ok _

theorem wordRun_blind : Blind (wordRun : Provider σ) := blind_planned fun _ => steady_ok _

theorem sentence_blind : Blind (sentence : Provider σ) := by
  refine blind_planned fun a => ?_
  dsimp only
  split
  · exact steady_error _
  · split <;> simp

theorem paragraph_blind : Blind (paragraph : Provider σ) := by
  refine blind_planned fun a => ?_
  dsimp only
  split <;> simp

end Lorem

theorem Builtin.arrayElement_blind : Blind (arrayElement : Provider σ) := by
  refine blind_planned fun a => ?_
  split <;> simp

theorem Catalog.password_blind : Blind (password : Provider σ) := by
  refine blind_planned fun a => ?_
  dsimp only
  split
  · exact steady_error _
  · split <;> simp

namespace Dates

/-- A provider of times knows the record by its window alone. -/
theorem windowed_congr {path : String} {parameters : List Parameter}
    {window : Timestamp → Arguments → Except Rejection (Timestamp × Timestamp)}
    {c d : RecordContext} {args : Option Json}
    (alike : ∀ a, Arguments.read parameters args = .ok a →
      window c.reference a = window d.reference a) :
    (windowed path parameters window : Provider σ) c args =
      windowed path parameters window d args := by
  apply decided_congr
  intro a accepted
  rw [alike a accepted]

theorem between_blind : Blind (between : Provider σ) :=
  fun _ _ _ => windowed_congr fun _ _ => rfl

end Dates

/-! ### Providers that use a part of the record -/

theorem Numbers.sequence_congr {c d : RecordContext} (same : c.index = d.index)
    (args : Option Json) : (sequence : Provider σ) c args = sequence d args := by
  refine planned_congr fun a _ => ?_
  dsimp only
  split
  · rfl
  · simp only [Except.map, same]

theorem Catalog.provider_congr {c d : RecordContext} (same : c.locale = d.locale)
    (path : String) (text : Localized σ) (args : Option Json) :
    provider path text c args = provider path text d args := by
  refine planned_congr fun _ _ => ?_
  simp only [Except.map, same]

namespace Dates

def relativePaths : List String := ["date.past", "date.future", "date.recent", "date.birthdate"]

def dated (args : Option (List (String × Json))) : Bool :=
  args.any fun members => Json.hasKey members "refDate"

variable {c d : RecordContext} {args : Option (List (String × Json))}

/-- A reference time among accepted arguments can be read, so that the one of the record does not
count. -/
theorem referenceOf_congr (same : dated args = false → c.reference = d.reference)
    {parameters : List Parameter} {a : Arguments}
    (declared : (parameters.find? fun p => p.key = "refDate") = some ⟨"refDate", .timestamp, false⟩)
    (accepted : Arguments.read parameters (args.map .object) = .ok a) :
    referenceOf c.reference a = referenceOf d.reference a := by
  cases given : dated args with
  | false => rw [same given]
  | true =>
    cases args with
    | none => exact nomatch given
    | some members =>
      obtain ⟨t, reads⟩ := Arguments.exists_timestamp accepted declared given
      rw [referenceOf, referenceOf, reads]
      rfl

theorem relative_congr (same : dated args = false → c.reference = d.reference) (path : String)
    (direction : Direction) (unit : SpanUnit) :
    (relative path direction unit : Provider σ) c (args.map .object) =
      relative path direction unit d (args.map .object) := by
  have declared : ((relativeParameters unit).find? fun p => p.key = "refDate") =
      some ⟨"refDate", .timestamp, false⟩ := by
    cases unit <;> rfl
  apply windowed_congr
  intro a accepted
  rw [referenceOf_congr same declared accepted]

theorem birthdate_congr (same : dated args = false → c.reference = d.reference) :
    (birthdate : Provider σ) c (args.map .object) = birthdate d (args.map .object) := by
  apply windowed_congr
  intro a accepted
  rw [referenceOf_congr same rfl accepted]

end Dates

/-! ### All built-in providers -/

def Catalog.paths (σ : Type) [RandomSource σ] : List String := (entries (σ := σ)).map Prod.fst

namespace Builtin

/-- Two records agree on what the built-in provider at a path uses of them. -/
structure Agree (σ : Type) [RandomSource σ] (path : String) (args : Option (List (String × Json)))
    (c d : RecordContext) : Prop where
  index : path = "number.sequence" → c.index = d.index
  locale : path ∈ Catalog.paths σ → c.locale = d.locale
  reference : path ∈ Dates.relativePaths → Dates.dated args = false → c.reference = d.reference

def UsesAgreed (entry : String × Provider σ) : Prop := ∀ args c d, Agree σ entry.1 args c d →
  entry.2 c (args.map .object) = entry.2 d (args.map .object)

theorem usesAgreed_of_blind {p : Provider σ} (blind : Blind p) (path : String) :
    UsesAgreed (path, p) := fun _ c d _ => blind c d _

theorem usesAgreed_relative {path : String} (listed : path ∈ Dates.relativePaths)
    (direction : Dates.Direction) (unit : Dates.SpanUnit) :
    UsesAgreed (path, (Dates.relative path direction unit : Provider σ)) :=
  fun _ _ _ agree => Dates.relative_congr (agree.reference listed) path direction unit

theorem usesAgreed_birthdate : UsesAgreed ("date.birthdate", (Dates.birthdate : Provider σ)) := by
  intro args c d agree
  have listed : "date.birthdate" ∈ Dates.relativePaths := by decide
  exact Dates.birthdate_congr (agree.reference listed)

theorem usesAgreed_composed :
    ∀ entry ∈ (composed : List (String × Provider σ)), UsesAgreed entry := by
  simp only [composed, List.forall_mem_cons]
  refine ⟨usesAgreed_of_blind Numbers.int_blind _, usesAgreed_of_blind Numbers.float_blind _,
    fun args c d agree => Numbers.sequence_congr (agree.index rfl) _,
    usesAgreed_of_blind Numbers.boolean_blind _, usesAgreed_of_blind Strings.uuid_blind _,
    usesAgreed_of_blind (Strings.fromAlphabet_blind _ _) _,
    usesAgreed_of_blind (Strings.fromAlphabet_blind _ _) _,
    usesAgreed_of_blind (Strings.fromAlphabet_blind _ _) _,
    usesAgreed_of_blind Strings.pattern_blind _, usesAgreed_of_blind Dates.between_blind _,
    usesAgreed_relative (by decide) _ _, usesAgreed_relative (by decide) _ _,
    usesAgreed_relative (by decide) _ _,
    usesAgreed_birthdate,
    usesAgreed_of_blind Numbers.amount_blind _,
    usesAgreed_of_blind (Numbers.coordinate_blind _ _ _) _,
    usesAgreed_of_blind (Numbers.coordinate_blind _ _ _) _,
    usesAgreed_of_blind arrayElement_blind _, usesAgreed_of_blind Lorem.word_blind _,
    usesAgreed_of_blind Lorem.wordRun_blind _, usesAgreed_of_blind Lorem.sentence_blind _,
    usesAgreed_of_blind Lorem.paragraph_blind _, usesAgreed_of_blind Catalog.password_blind _,
    List.forall_mem_nil _⟩

theorem usesAgreed_providers :
    ∀ entry ∈ (providers : List (String × Provider σ)), UsesAgreed entry := by
  intro entry member
  rcases List.mem_append.mp member with composed | localized
  · exact usesAgreed_composed entry composed
  · obtain ⟨⟨path, text⟩, listed, rfl⟩ := List.mem_map.mp localized
    intro args c d agree
    have named : path ∈ Catalog.paths σ := List.mem_map_of_mem listed
    exact Catalog.provider_congr (agree.locale named) path text _

end Builtin

end MockData
