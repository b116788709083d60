import MockData.Proofs.Provider.FloatBounds
import MockData.Proofs.Provider.Rejection
import MockData.Proofs.Provider.Windows

/-!
# Calls that end the program

A call of a built-in provider gives a value or is rejected, apart from what no guard catches: the
longest password, more sentences than a list has room for, and an instant drawn beyond the last leap
second of the calendar. Patterns are left aside. The main result is `ends_only_beyond`.
-/

namespace MockData

theorem Plan.drawing_ne {σ : Type} {inhabited : Bool} (holds : inhabited = true)
    (draw : RecordContext → Draw σ Json) : Plan.drawing inhabited draw ≠ .error .emptyRange := by
  rw [Plan.drawing_of holds]
  exact fun empty => nomatch empty

namespace Provider

variable {σ δ : Type} [RandomSource σ] {path : String} {parameters : List Parameter}
  {c : RecordContext} {args : Option Json} {s : σ}

theorem planned_ends {plan : Timestamp → Arguments → Plan σ} :
    (planned path parameters plan c args s).1 = .error .emptyRange ↔
      ∃ a, Arguments.read parameters args = .ok a ∧ plan c.reference a = .error .emptyRange := by
  have never (draw : RecordContext → Draw σ Json) :
      (drawPlanned c draw s).1 ≠ .error .emptyRange := fun ends => nomatch ends
  unfold planned
  rw [decided_ends]
  simp [never]

def Returns (p : Provider σ) : Prop := ∀ c args s, (p c args s).1 ≠ .error .emptyRange

theorem returns_planned {plan : Arguments → Plan σ} (never : ∀ a, plan a ≠ .error .emptyRange) :
    Returns (planned path parameters fun _ a => plan a) := by
  intro c args s ends
  obtain ⟨a, _, empty⟩ := planned_ends.mp ends
  exact never a empty

end Provider

open Provider

variable {σ : Type} [RandomSource σ]

/-! ### Ranges that are not empty -/

namespace Numbers

theorem int_returns : Returns (int : Provider σ) := by
  refine returns_planned fun a => ?_
  dsimp only
  split
  · exact fun empty => nomatch empty
  · rename_i ordered
    exact Plan.drawing_ne (decide_eq_true (Int.not_lt.mp ordered)) _

theorem float_returns : Returns (float : Provider σ) := by
  refine returns_planned fun a => ?_
  dsimp only
  split
  · exact fun empty => nomatch empty
  · split
    · exact fun empty => nomatch empty
    · split
      · exact fun empty => nomatch empty
      · split <;> exact fun empty => nomatch empty

theorem amount_returns : Returns (amount : Provider σ) := by
  refine returns_planned fun a => ?_
  dsimp only
  split
  · exact fun empty => nomatch empty
  · split
    · exact fun empty => nomatch empty
    · split <;> exact fun empty => nomatch empty

theorem sequence_returns : Returns (sequence : Provider σ) := by
  refine returns_planned fun a => ?_
  dsimp only
  split <;> exact fun empty => nomatch empty

theorem boolean_returns : Returns (boolean : Provider σ) := by
  refine returns_planned fun a => ?_
  dsimp only
  split
  · exact fun empty => nomatch empty
  · rename_i possible
    exact Plan.drawing_ne (by simpa using possible) _

theorem isFinite_sub {min max bound : Binary64} (small : bound.value ≤ 5000)
    (least : bound.neg.value ≤ min.value) (most : max.value ≤ bound.value)
    (ordered : min.value ≤ max.value) : (max.sub min).isFinite = true := by
  have above : Binary64.zero.value ≤ max.value - min.value := by
    rw [Binary64.value_eq_zero rfl]
    exact sub_nonneg.mpr ordered
  have below : max.value - min.value ≤ tenThousand.value := by
    rw [Binary64.value_neg] at least
    rw [value_tenThousand]
    linarith
  obtain ⟨width, difference, _⟩ := (Rounded.rounds_sub max min).within above below
  rw [difference]
  rfl

theorem coordinate_returns (path : String) {bound : Binary64} (boundText : String)
    (small : bound.value ≤ 5000) : Returns (coordinate path bound boundText : Provider σ) := by
  refine returns_planned fun a => ?_
  dsimp only
  split
  · exact fun empty => nomatch empty
  · rename_i bounds
    split
    · exact fun empty => nomatch empty
    · simp only [Bool.or_eq_true, not_or] at bounds
      obtain ⟨⟨ordered, least⟩, most⟩ := bounds
      have between := value_le_of_not_lt ordered
      apply Plan.drawing_ne
      rw [Bool.and_eq_true, Binary64.le_iff_value]
      exact ⟨between,
        isFinite_sub small (value_le_of_not_lt least) (value_le_of_not_lt most) between⟩

theorem latitude_returns : Returns (latitude : Provider σ) := by
  apply coordinate_returns
  rw [Binary64.value_eq, if_neg (by decide)]
  norm_num [ninety, Nat.shiftLeft_eq]

theorem longitude_returns : Returns (longitude : Provider σ) := by
  apply coordinate_returns
  rw [Binary64.value_eq, if_neg (by decide)]
  norm_num [oneHundredEighty, Nat.shiftLeft_eq]

end Numbers

namespace Strings

theorem uuid_returns : Returns (uuid : Provider σ) :=
  returns_planned fun _ empty => nomatch empty

theorem fromAlphabet_returns (path : String) {alphabet : List Char}
    (some : (!alphabet.isEmpty) = true) : Returns (fromAlphabet path alphabet : Provider σ) :=
  returns_planned fun _ => Plan.drawing_ne some _

end Strings

namespace Lorem

theorem word_returns : Returns (word : Provider σ) :=
  returns_planned fun _ empty => nomatch empty

theorem wordRun_returns : Returns (wordRun : Provider σ) :=
  returns_planned fun _ empty => nomatch empty

theorem sentence_returns : Returns (sentence : Provider σ) := by
  refine returns_planned fun a => ?_
  dsimp only
  split
  · exact fun empty => nomatch empty
  · split
    · exact fun empty => nomatch empty
    · rename_i ordered
      exact Plan.drawing_ne (decide_eq_true (Nat.not_lt.mp ordered)) _

end Lorem

theorem Builtin.arrayElement_returns : Returns (arrayElement : Provider σ) := by
  refine returns_planned fun a => ?_
  split <;> exact fun empty => nomatch empty

theorem Catalog.provider_returns (path : String) (text : Localized σ) :
    Returns (provider path text) := returns_planned fun _ empty => nomatch empty

/-! ### Ranges that overflow -/

theorem Lorem.paragraph_ends {c : RecordContext} {args : Option Json} {s : σ} :
    ((paragraph : Provider σ) c args s).1 = .error .emptyRange ↔
      ∃ a, Arguments.read paragraphParameters args = .ok a ∧
        mostSentences < ((a.count? "sentences").getD 3).toNat := by
  unfold paragraph
  rw [planned_ends]
  refine exists_congr fun a => and_congr_right fun _ => ?_
  dsimp only
  split
  · rename_i many
    exact iff_of_true rfl many
  · rename_i few
    exact iff_of_false (fun empty => nomatch empty) few

theorem Catalog.password_ends {c : RecordContext} {args : Option Json} {s : σ} :
    ((password : Provider σ) c args s).1 = .error .emptyRange ↔
      ∃ a, Arguments.read passwordParameters args = .ok a ∧
        (a.count? "length").getD 15 = 0xffffffffffffffff := by
  unfold password
  rw [planned_ends]
  refine exists_congr fun a => and_congr_right fun _ => ?_
  generalize (a.count? "length").getD 15 = length
  have next : length + 1 = 0 ↔ length = 0xffffffffffffffff := by
    rw [← UInt64.toNat_inj, ← UInt64.toNat_inj, UInt64.toNat_add]
    have word := length.toNat_lt
    simp only [UInt64.toNat_one, UInt64.toNat_zero, UInt64.reduceToNat]
    omega
  dsimp only
  rw [← next]
  split
  · rename_i none
    exact iff_of_false (fun empty => nomatch empty) (by rw [none]; decide)
  · split
    · rename_i last
      exact iff_of_true rfl last
    · rename_i notLast
      exact iff_of_false (fun empty => nomatch empty) notLast

/-! ### Windows that end with the calendar -/

namespace Dates

variable {c : RecordContext} {args : Option Json} {s : σ} {a : Arguments}

theorem between_ends (ends : ((between : Provider σ) c args s).1 = .error .emptyRange) :
    ∃ a stop, Arguments.read betweenParameters args = .ok a ∧ a.timestamp? "to" = some stop ∧
      stop.AtEnd := by
  obtain ⟨a, read, empty | ⟨start, stop, found, beyond⟩⟩ := windowed_ends ends
  · split at empty
    · exact nomatch empty
    · exact nomatch empty
    · split at empty <;> exact nomatch empty
  · split at found
    · exact nomatch found
    · exact nomatch found
    · rename_i first last
      split at found
      · cases found
        have late := instantBetween_beyond (Arguments.timestamp?_some first)
          (Arguments.timestamp?_some last) beyond
        exact ⟨a, stop, read, last, late.1⟩
      · exact nomatch found

/-- A window around the reference time that is left ends with it. -/
theorem relative_ends (known : c.reference.isRepresentable) {path : String}
    {direction : Direction} {unit : SpanUnit}
    (ends : ((relative path direction unit : Provider σ) c args s).1 = .error .emptyRange) :
    direction = .past ∧ ∃ a, Arguments.read (relativeParameters unit) args = .ok a ∧
      (referenceOf c.reference a).AtEnd := by
  obtain ⟨a, read, empty | ⟨start, stop, found, beyond⟩⟩ := windowed_ends ends
  · split at empty
    · exact nomatch empty
    · split at empty <;> exact nomatch empty
  · have reference := referenceOf_representable known a
    split at found
    · exact nomatch found
    · split at found
      · exact nomatch found
      · rename_i days _ window reached
        cases found
        cases direction with
        | past =>
          obtain ⟨start, shifted, same⟩ := Option.map_eq_some_iff.mp reached
          cases same
          have late := instantBetween_beyond (shift?_some shifted).2 reference beyond
          exact ⟨rfl, a, read, late.1⟩
        | future =>
          obtain ⟨stop, shifted, same⟩ := Option.map_eq_some_iff.mp reached
          cases same
          obtain ⟨late, different⟩ :=
            instantBetween_beyond reference (shift?_some shifted).2 beyond
          exact absurd (shift?_leap shifted late.2.2).2.symm different

theorem birthdate_ends (ends : ((birthdate : Provider σ) c args s).1 = .error .emptyRange) :
    ∃ a, Arguments.read birthdateParameters args = .ok a ∧
      (referenceOf c.reference a).AtEnd := by
  obtain ⟨a, read, empty | ⟨start, stop, found, beyond⟩⟩ := windowed_ends ends
  · dsimp only at empty
    split at empty
    · exact nomatch empty
    · split at empty <;> exact nomatch empty
  · dsimp only at found
    split at found
    · exact nomatch found
    · split at found
      · rename_i first last
        cases found
        have shifted := yearsBefore?_some last
        obtain ⟨late, _⟩ := instantBetween_beyond (shift?_some (yearsBefore?_some first)).2
          (shift?_some shifted).2 beyond
        rw [(shift?_leap shifted late.2.2).2] at late
        exact ⟨a, read, late⟩
      · exact nomatch found

end Dates

/-! ### All built-in providers -/

namespace Builtin

/-- The arguments ask for more than there can be: the longest password, whose length has no next
word, or more sentences than a list has room for. -/
inductive Exceeds (path : String) (a : Arguments) : Prop where
  | password (named : path = "internet.password")
      (longest : (a.count? "length").getD 15 = 0xffffffffffffffff)
  | paragraph (named : path = "lorem.paragraph")
      (many : Lorem.mostSentences < ((a.count? "sentences").getD 3).toNat)

inductive EndsLast (c : RecordContext) (path : String) (a : Arguments) : Prop where
  | between (named : path = "date.between") {stop : Timestamp}
      (given : a.timestamp? "to" = some stop) (last : stop.AtEnd)
  | before (listed : path ∈ ["date.past", "date.recent", "date.birthdate"])
      (last : (Dates.referenceOf c.reference a).AtEnd)

/-- Only these calls end the program. -/
def EndsBeyond (entry : String × Provider σ) : Prop :=
  entry.1 ≠ "string.pattern" → ∀ c, c.reference.isRepresentable → ∀ args s,
    (entry.2 c args s).1 = .error .emptyRange →
    ∃ a, Arguments.read (declared entry.1) args = .ok a ∧
      (Exceeds entry.1 a ∨ EndsLast c entry.1 a)

omit [RandomSource σ] in
theorem endsBeyond_of_returns {p : Provider σ} (returns : Returns p) (path : String) :
    EndsBeyond (path, p) := fun _ c _ args s ends => absurd ends (returns c args s)

theorem endsBeyond_between : EndsBeyond ("date.between", (Dates.between : Provider σ)) := by
  intro _ c _ args s ends
  obtain ⟨a, stop, read, given, last⟩ := Dates.between_ends (c := c) ends
  exact ⟨a, read, .inr (.between rfl given last)⟩

theorem endsBeyond_past {path : String} {unit : Dates.SpanUnit}
    (own : declared path = Dates.relativeParameters unit)
    (listed : path ∈ ["date.past", "date.recent", "date.birthdate"]) :
    EndsBeyond (path, (Dates.relative path .past unit : Provider σ)) := by
  intro _ c known args s ends
  obtain ⟨_, a, read, last⟩ := Dates.relative_ends known ends
  exact ⟨a, own ▸ read, .inr (.before listed last)⟩

theorem endsBeyond_future : EndsBeyond ("date.future", (Dates.future : Provider σ)) := by
  intro _ c known args s ends
  exact nomatch (Dates.relative_ends known ends).1

theorem endsBeyond_birthdate : EndsBeyond ("date.birthdate", (Dates.birthdate : Provider σ)) := by
  intro _ c _ args s ends
  have listed : "date.birthdate" ∈ ["date.past", "date.recent", "date.birthdate"] := by decide
  obtain ⟨a, read, last⟩ := Dates.birthdate_ends ends
  exact ⟨a, read, .inr (.before listed last)⟩

theorem endsBeyond_paragraph : EndsBeyond ("lorem.paragraph", (Lorem.paragraph : Provider σ)) := by
  intro _ c _ args s ends
  obtain ⟨a, read, many⟩ := Lorem.paragraph_ends.mp ends
  exact ⟨a, read, .inl (.paragraph rfl many)⟩

theorem endsBeyond_password :
    EndsBeyond ("internet.password", (Catalog.password : Provider σ)) := by
  intro _ c _ args s ends
  obtain ⟨a, read, longest⟩ := Catalog.password_ends.mp ends
  exact ⟨a, read, .inl (.password rfl longest)⟩

theorem endsBeyond_composed :
    ∀ entry ∈ (composed : List (String × Provider σ)), EndsBeyond entry := by
  simp only [composed, List.forall_mem_cons]
  exact ⟨endsBeyond_of_returns Numbers.int_returns _,
    endsBeyond_of_returns Numbers.float_returns _,
    endsBeyond_of_returns Numbers.sequence_returns _,
    endsBeyond_of_returns Numbers.boolean_returns _,
    endsBeyond_of_returns Strings.uuid_returns _,
    endsBeyond_of_returns (Strings.fromAlphabet_returns _ (by decide)) _,
    endsBeyond_of_returns (Strings.fromAlphabet_returns _ (by decide)) _,
    endsBeyond_of_returns (Strings.fromAlphabet_returns _ (by decide)) _,
    fun other => absurd rfl other, endsBeyond_between, endsBeyond_past rfl (by decide),
    endsBeyond_future, endsBeyond_past rfl (by decide), endsBeyond_birthdate,
    endsBeyond_of_returns Numbers.amount_returns _,
    endsBeyond_of_returns Numbers.latitude_returns _,
    endsBeyond_of_returns Numbers.longitude_returns _,
    endsBeyond_of_returns arrayElement_returns _, endsBeyond_of_returns Lorem.word_returns _,
    endsBeyond_of_returns Lorem.wordRun_returns _,
    endsBeyond_of_returns Lorem.sentence_returns _, endsBeyond_paragraph, endsBeyond_password,
    List.forall_mem_nil _⟩

theorem endsBeyond_of_mem :
    ∀ entry ∈ (providers : List (String × Provider σ)), EndsBeyond entry := by
  intro entry member
  rcases List.mem_append.mp member with composed | localized
  · exact endsBeyond_composed entry composed
  · obtain ⟨⟨path, text⟩, _, rfl⟩ := List.mem_map.mp localized
    exact endsBeyond_of_returns (Catalog.provider_returns path text) path

theorem ends_of_exceeds {path : String} {p : Provider σ} (found : registry.resolve path = .ok p)
    {a : Arguments} (exceeds : Exceeds path a) {args : Option Json}
    (read : Arguments.read (declared path) args = .ok a) (c : RecordContext) (s : σ) :
    (p c args s).1 = .error .emptyRange := by
  cases exceeds with
  | password named longest =>
    subst named
    obtain rfl := eq_of_composed (q := Catalog.password) (by simp [composed]) found
    exact Catalog.password_ends.mpr ⟨a, read, longest⟩
  | paragraph named many =>
    subst named
    obtain rfl := eq_of_composed (q := Lorem.paragraph) (by simp [composed]) found
    exact Lorem.paragraph_ends.mpr ⟨a, read, many⟩

/-- A call of a built-in provider other than that of patterns gives a value or returns an error,
whatever its arguments and whatever is drawn, unless it asks for more than there can be, which
always ends the program, or its window ends in the last leap second of the calendar. -/
theorem ends_only_beyond {path : String} {p : Provider σ} (found : registry.resolve path = .ok p)
    (other : path ≠ "string.pattern") {c : RecordContext} (known : c.reference.isRepresentable)
    (args : Option Json) (s : σ) :
    ((p c args s).1 = .error .emptyRange → ∃ a, Arguments.read (declared path) args = .ok a ∧
      (Exceeds path a ∨ EndsLast c path a)) ∧
    ∀ a, Arguments.read (declared path) args = .ok a → Exceeds path a →
      (p c args s).1 = .error .emptyRange := by
  constructor
  · exact endsBeyond_of_mem _ (resolve_iff_mem.mp found) other c known args s
  · intro a read exceeds
    exact ends_of_exceeds found exceeds read c s

theorem ends_only_beyond_past :
    let c : RecordContext := ⟨0, .enUS, .midnight 0⟩
    registry.resolve "date.past" = .ok (Dates.past : Provider Script) ∧
      c.reference.isRepresentable ∧
      ∀ s : Script, (Dates.past c none s).1 ≠ .error .emptyRange := by
  intro c
  have found : registry.resolve "date.past" = .ok (Dates.past : Provider Script) :=
    resolve_of_composed (by simp [composed])
  have known : c.reference.isRepresentable := by decide +kernel
  refine ⟨found, known, fun s ends => ?_⟩
  obtain ⟨a, read, exceeds | late⟩ :=
    (ends_only_beyond found (by decide) known none s).1 ends
  · cases exceeds with
    | password named _ => exact absurd named (by decide)
    | paragraph named _ => exact absurd named (by decide)
  · obtain rfl := Except.ok.inj read
    cases late with
    | between named _ _ => exact absurd named (by decide)
    | before _ last =>
      have end_of_calendar : (0 : Int) ≠ Date.lastDay := by decide +kernel
      exact end_of_calendar last.1

/-- The longest password, a moment between the last second of the calendar and its leap second, and
as many sentences as a word can count. -/
theorem ends_beyond :
    let c : RecordContext := ⟨0, .enUS, .midnight 0⟩
    let s := Script.cycle 0xffffffffffffffff #[]
    (Catalog.password c (some (.object [("length", .ofUInt64 0xffffffffffffffff)])) s).1 =
        .error .emptyRange ∧
      (Dates.between c (some (.object [("from", .string "+262142-12-31T23:59:59"),
        ("to", .string "+262142-12-31T23:59:60")])) s).1 = .error .emptyRange ∧
      (Lorem.paragraph c (some (.object [("sentences", .ofUInt64 0xffffffffffffffff)])) s).1 =
        .error .emptyRange := by
  refine ⟨?_, ?_, ?_⟩ <;> decide +kernel

end Builtin

end MockData
