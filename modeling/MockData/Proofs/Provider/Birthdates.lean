import MockData.Proofs.Provider.Windows

/-!
# Ages of birthdates

A birthdate lies as many times 365 days before the reference time as the person is old. Since years
with a leap day are longer, somebody who was born then may have completed one year less than was
asked for, and one more for every 1460 years, but never more years than were asked for.
-/

namespace MockData

namespace Timestamp

/-- The one stands earlier in its year than the other in its own. -/
def EarlierInYear (t u : Timestamp) : Prop :=
  t.date.month < u.date.month ∨ t.date.month = u.date.month ∧
    (t.date.day < u.date.day ∨ t.date.day = u.date.day ∧
      (t.second < u.second ∨ t.second = u.second ∧ t.nano < u.nano))

instance (t u : Timestamp) : Decidable (t.EarlierInYear u) :=
  inferInstanceAs (Decidable (_ ∨ _ ∧ (_ ∨ _ ∧ (_ ∨ _ ∧ _))))

/-- The age at a time of somebody who was born at another: the years between them, less one before
the birthday. -/
def completedYears (birth t : Timestamp) : Int :=
  t.date.year - birth.date.year - if t.EarlierInYear birth then 1 else 0

theorem day_eq (t : Timestamp) :
    t.day = Date.daysBeforeYear t.date.year + t.date.dayOfYear :=
  (Date.ofDayNumber_spec t.day).2.symm

theorem dayOfYear_date_le (t : Timestamp) : t.date.dayOfYear ≤ 365 := by
  have inside := Date.dayOfYear_lt (Date.ofDayNumber_spec t.day).1
  have whole := Date.yearLength_le (Date.isLeap t.date.year)
  exact Nat.le_of_lt_succ (Nat.lt_of_lt_of_le inside whole)

theorem year_le {t u : Timestamp} (ordered : t.day ≤ u.day + 1) :
    t.date.year ≤ u.date.year + 1 := by
  refine Int.not_lt.mp fun after => ?_
  have first := day_eq t
  have second := day_eq u
  have most := dayOfYear_date_le u
  have years := Date.daysBeforeYear_mono (show u.date.year + 1 + 1 ≤ t.date.year by omega)
  rw [Date.daysBeforeYear_succ, Date.daysBeforeYear_succ] at years
  have long := Date.le_yearLength (Date.isLeap u.date.year)
  have again := Date.le_yearLength (Date.isLeap (u.date.year + 1))
  omega

/-- The days that somebody of an age has lived: 365 for every completed year, up to a leap day, and
less than another year, with the leap days of all of them. -/
theorem days_of_completedYears {birth t : Timestamp} (ordered : birth.day ≤ t.day + 1) :
    365 * completedYears birth t ≤ t.day - birth.day + 2 ∧
      400 * (t.day - birth.day - 1) ≤ 146097 * (completedYears birth t + 1) + 1095 := by
  have years := Date.daysBeforeYear_diff (year_le ordered)
  have first := day_eq birth
  have second := day_eq t
  have some := dayOfYear_date_le birth
  have most := dayOfYear_date_le t
  unfold completedYears
  split
  · rename_i earlier
    have order : t.date.dayOfYear ≤ birth.date.dayOfYear + 1 := by
      apply Date.dayOfYear_le (Date.ofDayNumber_spec t.day).1 (Date.ofDayNumber_spec birth.day).1
      change t.date.month < birth.date.month ∨
        t.date.month = birth.date.month ∧ t.date.day ≤ birth.date.day
      unfold EarlierInYear at earlier
      omega
    omega
  · rename_i notEarlier
    have order : birth.date.dayOfYear ≤ t.date.dayOfYear + 1 := by
      apply Date.dayOfYear_le (Date.ofDayNumber_spec birth.day).1 (Date.ofDayNumber_spec t.day).1
      change birth.date.month < t.date.month ∨
        birth.date.month = t.date.month ∧ birth.date.day ≤ t.date.day
      unfold EarlierInYear at notEarlier
      omega
    omega

/-- An age in years of 365 days is an age in years of the calendar up to the leap days. -/
theorem completedYears_of_elapsed {birth t : Timestamp} {least most : Nat}
    (old : (least * 365 : Nat) * nanosPerDay ≤ t.instant - birth.instant)
    (young : t.instant - birth.instant < (most * 365 : Nat) * nanosPerDay + nanosPerMilli) :
    completedYears birth t ≤ most ∧ least ≤ completedYears birth t + 1 + (least / 1460 : Nat) := by
  obtain ⟨first, last⟩ := instant_bounds birth
  obtain ⟨begin, stop⟩ := instant_bounds t
  have seconds := leapNanos_bounds birth
  have others := leapNanos_bounds t
  unfold nanosPerDay nanosPerMilli nanosPerSecond at *
  have ordered : birth.day ≤ t.day + 1 := by omega
  obtain ⟨lived, bound⟩ := days_of_completedYears ordered
  refine ⟨by omega, Int.not_lt.mp fun fewer => ?_⟩
  have days : least * 365 ≤ t.day - birth.day + 1 := by omega
  have cycles := Nat.lt_mul_div_succ least (show 0 < 1460 by decide)
  omega

end Timestamp

namespace Dates

variable {σ : Type} [RandomSource σ]

theorem yearsBefore?_instant {reference t : Timestamp} {age : UInt64}
    (found : yearsBefore? reference age = some t) :
    t.instant = reference.instant - (age.toNat * 365 : Nat) * Timestamp.nanosPerDay := by
  rw [(shift?_some (yearsBefore?_some found)).1]
  exact Timestamp.addDays_back reference _

theorem instantBetween_elapsed {reference start stop : Timestamp} {minAge maxAge : UInt64}
    (ordered : minAge.toNat ≤ maxAge.toNat) (first : yearsBefore? reference maxAge = some start)
    (last : yearsBefore? reference minAge = some stop) (s : σ) :
    (minAge.toNat * 365 : Nat) * Timestamp.nanosPerDay ≤
        reference.instant - (instantBetween start stop s).1.instant ∧
      reference.instant - (instantBetween start stop s).1.instant ≤
        (maxAge.toNat * 365 : Nat) * Timestamp.nanosPerDay := by
  obtain ⟨millis, within, drawn⟩ := instantBetween_spec start stop s
  have startAt := yearsBefore?_instant first
  have stopAt := yearsBefore?_instant last
  have older := Nat.mul_le_mul_right 365 ordered
  rw [drawn]
  unfold Timestamp.nanosPerDay Timestamp.nanosPerSecond at *
  rcases Nat.eq_zero_or_pos millis with rfl | some
  · rw [Timestamp.addMillis_zero]
    omega
  · have plain : ¬ start.InLeap := by
      intro inLeap
      -- Nobody is older than not at all, and so the window is empty.
      have none := (shift?_leap (yearsBefore?_some first) inLeap).1
      have same : maxAge = minAge := UInt64.toNat_inj.mp (by omega)
      rw [same, last] at first
      obtain rfl := Option.some.inj first
      rw [Timestamp.millisBetween_self] at within
      omega
    have between := Timestamp.nanosBetween_le start stop
    rw [Timestamp.leapNanos_plain plain] at between
    rw [Timestamp.addMillis_plain plain]
    unfold Timestamp.millisBetween at within
    unfold Timestamp.nanosPerMilli at *
    omega

/-- A birthdate that is given shows an instant, in whole milliseconds, that lies between the two
ages before the reference time in years of 365 days. In years of the calendar nobody is too old, and
nobody is younger than asked for by more than one year and another one for every 1460 years. -/
theorem birthdate_ages {c : RecordContext} {args : Option Json} {s : σ} {v : Json}
    (given : ((birthdate : Provider σ) c args s).1 = .ok v) :
    ∃ (a : Arguments) (birth : Timestamp),
      Arguments.read birthdateParameters args = .ok a ∧ v = .string birth.iso ∧
      birth.nano % 1000000 = 0 ∧
      let reference := referenceOf c.reference a
      let minAge := ((a.count? "minAge").getD 18).toNat
      let maxAge := ((a.count? "maxAge").getD 80).toNat
      (minAge * 365 : Nat) * Timestamp.nanosPerDay ≤ reference.instant - birth.instant ∧
      reference.instant - birth.instant <
        (maxAge * 365 : Nat) * Timestamp.nanosPerDay + Timestamp.nanosPerMilli ∧
      birth.completedYears reference ≤ maxAge ∧
      minAge ≤ birth.completedYears reference + 1 + (minAge / 1460 : Nat) := by
  obtain ⟨a, start, stop, read, reached, shown⟩ := windowed_ok given
  dsimp only at reached
  split at reached
  · exact nomatch reached
  · rename_i ordered
    split at reached
    · rename_i first last
      cases reached
      obtain ⟨least, most⟩ := instantBetween_elapsed (Nat.le_of_not_lt ordered) first last s
      obtain ⟨cut, close⟩ := (instantBetween start stop s).1.cutToMillis_instant
      have old := Int.le_trans least (Int.sub_le_sub_left cut _)
      refine ⟨a, (instantBetween start stop s).1.cutToMillis, read, ?_, Nat.mul_mod_left _ _, old, ?_⟩
      · rw [shown, Timestamp.iso_cutToMillis]
      · have young : (referenceOf c.reference a).instant -
            (instantBetween start stop s).1.cutToMillis.instant <
              (((a.count? "maxAge").getD 80).toNat * 365 : Nat) * Timestamp.nanosPerDay +
                Timestamp.nanosPerMilli := by
          omega
        exact ⟨young, Timestamp.completedYears_of_elapsed old young⟩
    · exact nomatch reached

theorem birthdate_ages_working :
    let c : RecordContext := ⟨0, .enUS, .midnight 0⟩
    let members := [("maxAge", Json.ofUInt64 65), ("refDate", .string "2024-02-29")]
    let reference : Timestamp := .midnight (Date.dayNumber ⟨2024, 2, 29⟩)
    ∃ (v : Json) (birth : Timestamp),
      (birthdate c (some (.object members)) (Script.cycle 0 #[])).1 = .ok v ∧
      v = .string birth.iso ∧ birth.nano % 1000000 = 0 ∧
      18 ≤ birth.completedYears reference + 1 ∧ birth.completedYears reference ≤ 65 := by
  intro c members reference
  have given : (birthdate c (some (.object members)) (Script.cycle 0 #[])).1 =
      .ok (.string "1959-03-17T00:00:00.000Z") := by
    decide +kernel
  obtain ⟨a, birth, read, shown, whole, -, -, young, old⟩ := birthdate_ages given
  obtain ⟨rfl, -⟩ := Arguments.read_object_ok read
  have dated : referenceOf c.reference ⟨members⟩ = reference := by decide +kernel
  have least : (Arguments.count? ⟨members⟩ "minAge").getD 18 = 18 := by decide +kernel
  have most : (Arguments.count? ⟨members⟩ "maxAge").getD 80 = 65 := by decide +kernel
  rw [dated, least] at old
  rw [dated, most] at young
  refine ⟨_, birth, given, shown, whole, ?_, young⟩
  simpa using old

/-- Eighteen times 365 days before the start of 2024, nobody is eighteen years old. -/
theorem birthdate_too_young :
    let c : RecordContext := ⟨0, .enUS, .midnight 0⟩
    let args := some (Json.object
      [("minAge", .ofUInt64 18), ("maxAge", .ofUInt64 18), ("refDate", .string "2024-01-01")])
    let reference : Timestamp := .midnight (Date.dayNumber ⟨2024, 1, 1⟩)
    let birth : Timestamp := .midnight (Date.dayNumber ⟨2006, 1, 5⟩)
    (birthdate c args (Script.cycle 0 #[])).1 = .ok (.string birth.iso) ∧
      birth.iso = "2006-01-05T00:00:00.000Z" ∧ birth.completedYears reference = 17 := by
  intro c args reference birth
  refine ⟨?_, ?_, ?_⟩ <;> decide +kernel

end Dates

end MockData
