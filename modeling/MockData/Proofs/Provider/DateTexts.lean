import MockData.Proofs.Calendar.Showing
import MockData.Proofs.Provider.Builtin
import MockData.Proofs.Provider.Windows

/-!
# Dates as arguments

What a provider of dates gives is the text of a time some milliseconds after the start of its
window. If its year has four digits, it can be given to a provider of dates again, as a time that
shows the same. `emitted_times` puts this together with the round trip and the order of the texts.
-/

namespace MockData

namespace Dates

open Timestamp

variable {σ : Type} [RandomSource σ] {c : RecordContext} {args : Option Json} {s : σ} {v : Json}

def paths : List String :=
  ["date.between", "date.past", "date.future", "date.recent", "date.birthdate"]

/-! ### Windows start at settled times -/

theorem settled_referenceOf (settled : c.reference.Settled) (a : Arguments) :
    (referenceOf c.reference a).Settled := by
  unfold referenceOf
  cases given : a.timestamp? "refDate" with
  | none => exact settled
  | some t => exact Arguments.timestamp?_settled given

theorem settled_shift? {t shifted : Timestamp} {days : Int} (settled : t.Settled)
    (found : shift? t days = some shifted) : shifted.Settled := by
  obtain ⟨rfl, -⟩ := shift?_some found
  exact settled_add settled _ _

/-- A call gave the text of a time, which is settled if the reference time of the record is. -/
def Gave (c : RecordContext) (v : Json) : Prop :=
  ∃ t : Timestamp, v = .string t.iso ∧ (c.reference.Settled → t.Settled)

theorem gave_of_windowed {path : String} {parameters : List Parameter}
    {window : Timestamp → Arguments → Except Rejection (Timestamp × Timestamp)}
    (starts : ∀ a start stop, window c.reference a = .ok (start, stop) → c.reference.Settled →
      start.Settled)
    (given : (windowed path parameters window c args s).1 = .ok v) : Gave c v := by
  obtain ⟨a, start, stop, _, found, rfl⟩ := windowed_ok given
  obtain ⟨millis, _, drawn⟩ := instantBetween_spec start stop s
  rw [drawn]
  exact ⟨_, rfl, fun settled => settled_add (starts a start stop found settled) _ _⟩

theorem between_gave (given : ((between : Provider σ) c args s).1 = .ok v) : Gave c v := by
  refine gave_of_windowed (fun a start stop found _ => ?_) given
  split at found
  · exact nomatch found
  · exact nomatch found
  · rename_i first last
    split at found
    · cases found
      exact Arguments.timestamp?_settled first
    · exact nomatch found

theorem relative_gave {path : String} {direction : Direction} {unit : SpanUnit}
    (given : ((relative path direction unit : Provider σ) c args s).1 = .ok v) : Gave c v := by
  refine gave_of_windowed (fun a start stop found settled => ?_) given
  have reference := settled_referenceOf settled a
  split at found
  · exact nomatch found
  · split at found
    · exact nomatch found
    · rename_i days _ window reached
      cases found
      cases direction with
      | past =>
        obtain ⟨start, shifted, same⟩ := Option.map_eq_some_iff.mp reached
        cases same
        exact settled_shift? reference shifted
      | future =>
        obtain ⟨stop, shifted, same⟩ := Option.map_eq_some_iff.mp reached
        cases same
        exact reference

theorem birthdate_gave (given : ((birthdate : Provider σ) c args s).1 = .ok v) : Gave c v := by
  refine gave_of_windowed (fun a start stop found settled => ?_) given
  have reference := settled_referenceOf settled a
  dsimp only at found
  split at found
  · exact nomatch found
  · split at found
    · rename_i first last
      cases found
      exact settled_shift? reference (yearsBefore?_some first)
    · exact nomatch found

theorem gave_of_path {path : String} (listed : path ∈ paths) {p : Provider σ}
    (found : Builtin.registry.resolve path = .ok p) (given : (p c args s).1 = .ok v) :
    Gave c v := by
  simp only [paths, List.mem_cons, List.not_mem_nil, or_false] at listed
  rcases listed with rfl | rfl | rfl | rfl | rfl
  · obtain rfl := Builtin.eq_of_composed (q := between) (by simp [Builtin.composed]) found
    exact between_gave given
  · obtain rfl := Builtin.eq_of_composed (q := past) (by simp [Builtin.composed]) found
    exact relative_gave given
  · obtain rfl := Builtin.eq_of_composed (q := future) (by simp [Builtin.composed]) found
    exact relative_gave given
  · obtain rfl := Builtin.eq_of_composed (q := recent) (by simp [Builtin.composed]) found
    exact relative_gave given
  · obtain rfl := Builtin.eq_of_composed (q := birthdate) (by simp [Builtin.composed]) found
    exact birthdate_gave given

/-! ### Texts as arguments -/

theorem toTimestamp?_iso {t : Timestamp} (year : t.FourDigitYear) :
    (Json.string t.iso).toTimestamp? = some t.shown := parse?_iso year

theorem timestamp?_given (key : String) (v : Json) :
    Arguments.timestamp? ⟨[(key, v)]⟩ key = v.toTimestamp? := by
  simp [Arguments.timestamp?, Arguments.get?, Json.find?]

/-- The text of a time whose year has four digits is read back as what it shows: the instant cut to
milliseconds, and the time itself cut to milliseconds unless it has a leap second within a minute.
Two such texts are in the order of the times that they show. What a provider of dates gives is such
a text, of a time that has no leap second within a minute if the reference time has none; and where
its year has four digits, it is accepted as an argument and read as the time that it shows. -/
theorem emitted_times :
    (∀ t : Timestamp, t.FourDigitYear → parse? t.iso = some t.shown ∧
      t.shown.instant = wholeMillis t.instant ∧ (t.Settled → t.shown = t.cutToMillis)) ∧
    (∀ s t : Timestamp, s.FourDigitYear → t.FourDigitYear →
      (s.iso ≤ t.iso ↔ s.shown.le t.shown)) ∧
    ∀ {σ : Type} [RandomSource σ] {path : String} {p : Provider σ}, path ∈ paths →
      Builtin.registry.resolve path = .ok p → ∀ c args s v, (p c args s).1 = .ok v →
      ∃ t : Timestamp, v = .string t.iso ∧ (c.reference.Settled → t.Settled) ∧
        (t.FourDigitYear → ParameterKind.timestamp.accepts v ∧
          ∀ key, Arguments.timestamp? ⟨[(key, v)]⟩ key = some t.shown) := by
  refine ⟨fun t year => ⟨parse?_iso year, instant_shown t, shown_of_settled⟩,
    fun s t => iso_le_iff, ?_⟩
  intro σ _ path p listed found c args s v given
  obtain ⟨t, rfl, settled⟩ := gave_of_path listed found given
  refine ⟨t, rfl, settled, fun year => ⟨?_, fun key => ?_⟩⟩
  · rw [ParameterKind.accepts, toTimestamp?_iso year]
    rfl
  · rw [timestamp?_given, toTimestamp?_iso year]

/-- The end of a leap second and the new year behind it. The start of the day before 2024, which a
call without arguments gives, is a reference time. -/
theorem emitted_times_new_year :
    let leap : Timestamp :=
      ⟨Date.dayNumber ⟨2016, 12, 31⟩, 86399, 1999999999, by decide, by decide⟩
    let next : Timestamp := midnight (Date.dayNumber ⟨2017, 1, 1⟩)
    let c : RecordContext := ⟨0, .enUS, midnight (Date.dayNumber ⟨2024, 1, 1⟩)⟩
    (parse? leap.iso = some leap.cutToMillis ∧ leap.iso ≤ next.iso) ∧
      ∃ (v : Json) (t : Timestamp),
        (recent c none (Script.cycle 0 #[])).1 = .ok v ∧ v = .string t.iso ∧
        t.iso = "2023-12-31T00:00:00.000Z" ∧
        Arguments.timestamp? ⟨[("refDate", v)]⟩ "refDate" = some t.shown := by
  intro leap next c
  obtain ⟨reads, orders, gives⟩ := emitted_times
  have year : leap.FourDigitYear := ⟨by decide +kernel, by decide +kernel⟩
  have nextYear : next.FourDigitYear := ⟨by decide +kernel, by decide +kernel⟩
  obtain ⟨read, _, cut⟩ := reads leap year
  have given : (recent c none (Script.cycle 0 #[])).1 =
      .ok (.string "2023-12-31T00:00:00.000Z") := by
    decide +kernel
  have found : Builtin.registry.resolve "date.recent" = .ok (recent : Provider Script) :=
    Builtin.resolve_of_composed (by simp [Builtin.composed])
  obtain ⟨t, text, _, accepted⟩ := gives (by decide) found c none _ _ given
  have same : t.iso = "2023-12-31T00:00:00.000Z" := (Json.string.inj text).symm
  have noSign : t.FourDigitYear := by
    by_contra other
    have sign := head?_iso other
    rw [same] at sign
    split at sign <;> exact absurd sign (by decide)
  refine ⟨⟨?_, ?_⟩, _, t, given, text, same, (accepted noSign).2 _⟩
  · rw [read, cut fun _ => by decide]
  · rw [orders leap next year nextYear]
    decide +kernel

end Dates

end MockData
