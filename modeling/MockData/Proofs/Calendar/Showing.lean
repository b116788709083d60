import Mathlib.Data.List.TakeWhile
import MockData.Proofs.Calendar.Reading

/-!
# Texts of timestamps

A timestamp whose year has four digits is read back from its text as what the text shows of it
(`parse?_iso`), and texts are in the order of the times that they show (`iso_le_iff`).
-/

namespace MockData

namespace Timestamp

def FourDigitYear (t : Timestamp) : Prop := 0 ≤ t.date.year ∧ t.date.year ≤ 9999

/-- What the text of a timestamp shows. Within a minute a leap second is shown as the second after
it. -/
def shown (t : Timestamp) : Timestamp :=
  if h : nanosPerSecond ≤ t.nano ∧ t.second % 60 ≠ 59 then
    { day := t.day
      second := t.second + 1
      nano := (t.nano - 1000000000) / 1000000 * 1000000
      second_lt := by have := t.second_lt; omega
      nano_lt := by have := t.nano_lt; omega }
  else t.cutToMillis

theorem shown_of_settled {t : Timestamp} (settled : t.Settled) : t.shown = t.cutToMillis := by
  rw [shown, dif_neg]
  rintro ⟨leap, within⟩
  exact within (settled leap)

theorem eq_of_fields {s t : Timestamp} (day : s.day = t.day) (second : s.second = t.second)
    (nano : s.nano = t.nano) : s = t := by
  cases s
  cases t
  simp only [mk.injEq]
  exact ⟨day, second, nano⟩

theorem ofSeconds_self (t : Timestamp) : ofSeconds t.day t.second t.nano t.nano_lt = t := by
  have second := t.second_lt
  unfold ofSeconds
  apply eq_of_fields <;> dsimp only <;> omega

theorem instant_shown (t : Timestamp) : t.shown.instant = wholeMillis t.instant := by
  unfold shown
  split
  · rename_i leap
    unfold instant wholeMillis nanosPerMilli nanosPerSecond at *
    dsimp only
    omega
  · exact instant_cutToMillis t

/-! ### The parts of a text -/

section

variable (t : Timestamp)

theorem hour_lt : t.hour < 24 := by
  have := t.second_lt
  unfold hour
  omega

theorem minute_lt : t.minute < 60 := Nat.mod_lt _ (by decide)

theorem shownSecond_le : t.shownSecond ≤ 60 := by
  have := t.nano_lt
  unfold shownSecond
  omega

def shownMillis : Nat := t.shownNano / 1000000

theorem shownMillis_lt : t.shownMillis < 1000 := by
  unfold shownMillis shownNano
  omega

theorem date_valid : t.date.isValid := (Date.ofDayNumber_spec t.day).1

theorem dayNumber_date : t.date.dayNumber = t.day := (Date.ofDayNumber_spec t.day).2

@[simp] theorem day_shown : t.shown.day = t.day := by
  unfold shown
  split <;> rfl

theorem second_shown : t.shown.second = t.hour * 3600 + t.minute * 60 + min t.shownSecond 59 := by
  have nano := t.nano_lt
  unfold shown hour minute shownSecond nanosPerSecond
  split
  · dsimp only
    omega
  · unfold cutToMillis
    dsimp only
    omega

theorem nano_shown :
    t.shown.nano = t.shownMillis * 1000000 + t.shownSecond / 60 * 1000000000 := by
  have nano := t.nano_lt
  unfold shown shownMillis shownNano shownSecond nanosPerSecond
  split
  · dsimp only
    omega
  · unfold cutToMillis
    dsimp only
    omega

end

end Timestamp

/-- No month is longer than 31 days. -/
theorem Date.fields_lt {d : Date} (valid : d.isValid) : d.month < 100 ∧ d.day < 100 := by
  obtain ⟨_, month, _, day⟩ := exists_of_isValid valid
  have longest : ∀ leap : Bool, ∀ month < 12, (lengthsOf leap).getD month 0 ≤ 31 := by
    decide +kernel
  have short := longest (isLeap d.year) _ month
  omega

namespace Timestamp

theorem toList_iso {t : Timestamp} (year : t.FourDigitYear) : t.iso.toList =
    (padded 4 t.date.year.toNat).toList ++ '-' :: ((padded 2 t.date.month).toList ++
      '-' :: ((padded 2 t.date.day).toList ++ 'T' :: ((padded 2 t.hour).toList ++
      ':' :: ((padded 2 t.minute).toList ++ ':' :: ((padded 2 t.shownSecond).toList ++
      '.' :: ((padded 3 t.shownMillis).toList ++ ['Z'])))))) := by
  have digits : Date.yearText t.date.year = padded 4 t.date.year.toNat := if_pos year
  simp [iso, Date.text, digits, clockText, shownMillis]

/-- Every other year has a sign. -/
theorem head?_iso {t : Timestamp} (other : ¬ t.FourDigitYear) :
    t.iso.toList.head? = some (if t.date.year < 0 then '-' else '+') := by
  have signed : Date.yearText t.date.year =
      (if t.date.year < 0 then "-" else "+") ++ padded 4 t.date.year.natAbs := if_neg other
  rw [iso, Date.text, signed]
  split <;> simp

end Timestamp

namespace Calendar

open Timestamp

/-! ### Reading -/

theorem takeWhile_padded (width n : Nat) :
    (padded width n).toList.takeWhile Char.isDigit = (padded width n).toList :=
  List.takeWhile_eq_self_iff.mpr fun _ => isDigit_of_mem_padded

theorem digitsValue_padded (width n : Nat) : digitsValue (padded width n).toList = n :=
  ofDigitChars_padded width n

theorem fixed?_padded {width n : Nat} (some : 0 < width) (fits : n < 10 ^ width)
    (rest : List Char) : fixed? width ((padded width n).toList ++ rest) = .some (n, rest) := by
  have length := length_padded some fits
  rw [fixed?, number?, List.take_left' length, takeWhile_padded, length, digitsValue_padded,
    List.drop_left' length]
  exact if_neg (Nat.lt_irrefl width)

theorem nanos?_millis {millis : Nat} (fits : millis < 1000) :
    nanos? ('.' :: ((padded 3 millis).toList ++ ['Z'])) = some (millis * 1000000, ['Z']) := by
  have length : (padded 3 millis).toList.length = 3 := length_padded (by decide) fits
  have digits : ((padded 3 millis).toList ++ ['Z']).takeWhile Char.isDigit =
      (padded 3 millis).toList := by
    rw [List.takeWhile_append_of_pos fun _ => isDigit_of_mem_padded]
    exact List.append_nil _
  have rest : ((padded 3 millis).toList ++ ['Z']).dropWhile Char.isDigit = ['Z'] := by
    rw [List.dropWhile_append_of_pos fun _ => isDigit_of_mem_padded]
    rfl
  have read : number? 1 9 (padded 3 millis).toList = some (millis, []) := by
    have short : (padded 3 millis).toList.take 9 = (padded 3 millis).toList :=
      List.take_of_length_le (by omega)
    rw [number?, short, takeWhile_padded, digitsValue_padded, List.drop_length, length]
    rfl
  rw [nanos?, digits, read, rest, length]
  rfl

theorem date?_date {t : Timestamp} (year : t.FourDigitYear) :
    date? t.date.year.toNat t.date.month t.date.day = some t.date := by
  have same : (t.date.year.toNat : Int) = t.date.year := Int.toNat_of_nonneg year.1
  rw [date?, same]
  have first : -262143 ≤ t.date.year := by
    have := year.1
    omega
  have last : t.date.year ≤ 262142 := by
    have := year.2
    omega
  exact if_pos (Date.isRepresentable_iff.mpr ⟨t.date_valid, first, last⟩)

theorem timestamp?_shown (t : Timestamp) :
    timestamp? t.date t.hour t.minute t.shownSecond (t.shownMillis * 1000000) = some t.shown := by
  have fields : t.hour < 24 ∧ t.minute < 60 ∧ t.shownSecond ≤ 60 ∧
      t.shownMillis * 1000000 < 1000000000 := by
    have millis := t.shownMillis_lt
    exact ⟨t.hour_lt, t.minute_lt, t.shownSecond_le, by omega⟩
  rw [timestamp?, dif_pos fields]
  have second := t.second_shown
  have nano := t.nano_shown
  split
  · rename_i leap
    refine congrArg some (eq_of_fields ?_ ?_ ?_) <;> dsimp only
    · rw [day_shown, dayNumber_date]
    · omega
    · omega
  · refine congrArg some (eq_of_fields ?_ ?_ ?_) <;> dsimp only
    · rw [day_shown, dayNumber_date]
    · omega
    · omega

theorem zoned?_iso {t : Timestamp} (year : t.FourDigitYear) :
    zoned? t.iso.toList = some t.shown := by
  have date := Date.fields_lt t.date_valid
  have early := year.2
  have hour := t.hour_lt
  have minute := t.minute_lt
  have second := t.shownSecond_le
  have char (c : Char) (rest : List Char) : char? c (c :: rest) = some rest := if_pos rfl
  rw [toList_iso year, zoned?]
  refine Option.bind_eq_some_iff.mpr ⟨_, fixed?_padded (by decide) (by omega) _, ?_⟩
  refine Option.bind_eq_some_iff.mpr ⟨_, char _ _, ?_⟩
  refine Option.bind_eq_some_iff.mpr ⟨_, fixed?_padded (by decide) date.1 _, ?_⟩
  refine Option.bind_eq_some_iff.mpr ⟨_, char _ _, ?_⟩
  refine Option.bind_eq_some_iff.mpr ⟨_, fixed?_padded (by decide) date.2 _, ?_⟩
  refine Option.bind_eq_some_iff.mpr ⟨_, rfl, ?_⟩
  refine Option.bind_eq_some_iff.mpr ⟨_, fixed?_padded (by decide) (by omega) _, ?_⟩
  refine Option.bind_eq_some_iff.mpr ⟨_, char _ _, ?_⟩
  refine Option.bind_eq_some_iff.mpr ⟨_, fixed?_padded (by decide) (by omega) _, ?_⟩
  refine Option.bind_eq_some_iff.mpr ⟨_, char _ _, ?_⟩
  refine Option.bind_eq_some_iff.mpr ⟨_, fixed?_padded (by decide) (by omega) _, ?_⟩
  refine Option.bind_eq_some_iff.mpr ⟨_, nanos?_millis t.shownMillis_lt, ?_⟩
  refine Option.bind_eq_some_iff.mpr ⟨_, rfl, ?_⟩
  refine Option.bind_eq_some_iff.mpr ⟨_, rfl, ?_⟩
  refine Option.bind_eq_some_iff.mpr ⟨_, date?_date year, ?_⟩
  refine Option.bind_eq_some_iff.mpr ⟨_, timestamp?_shown t, ?_⟩
  have same := ofSeconds_self t.shown
  rw [← Int.sub_zero t.shown.second] at same
  exact congrArg some same

end Calendar

namespace Timestamp

theorem parse?_iso {t : Timestamp} (year : t.FourDigitYear) : parse? t.iso = some t.shown := by
  unfold parse?
  dsimp only
  rw [Calendar.zoned?_iso year]
  rfl

/-! ### Order -/

def ClockBefore (s t : Timestamp) : Prop :=
  s.hour < t.hour ∨ s.hour = t.hour ∧ (s.minute < t.minute ∨ s.minute = t.minute ∧
    (s.shownSecond < t.shownSecond ∨ s.shownSecond = t.shownSecond ∧
      s.shownMillis < t.shownMillis))

theorem clockBefore_iff (s t : Timestamp) : ClockBefore s t ↔ s.shown.second < t.shown.second ∨
    s.shown.second = t.shown.second ∧ s.shown.nano < t.shown.nano := by
  have minute := s.minute_lt
  have second := s.shownSecond_le
  have millis := s.shownMillis_lt
  have other_minute := t.minute_lt
  have other_second := t.shownSecond_le
  have other_millis := t.shownMillis_lt
  rw [second_shown, second_shown, nano_shown, nano_shown, ClockBefore]
  omega

theorem day_eq_iff (s t : Timestamp) : s.day = t.day ↔ s.date.year = t.date.year ∧
    s.date.month = t.date.month ∧ s.date.day = t.date.day := by
  rw [← Date.mk.injEq]
  constructor
  · exact congrArg Date.ofDayNumber
  · intro same
    rw [← dayNumber_date, ← dayNumber_date t]
    exact congrArg Date.dayNumber same

theorem not_shown_le_iff (s t : Timestamp) : t.shown.le s.shown = false ↔
    s.date.Before t.date ∨ s.day = t.day ∧ ClockBefore s t := by
  have days := Date.dayNumber_lt_iff s.date_valid t.date_valid
  rw [dayNumber_date, dayNumber_date] at days
  rw [← days, clockBefore_iff, le, day_shown, day_shown]
  split
  · simp
    omega
  · split
    · simp
      omega
    · simp
      omega

theorem iso_lt_iff {s t : Timestamp} (first : s.FourDigitYear) (second : t.FourDigitYear) :
    s.iso < t.iso ↔ t.shown.le s.shown = false := by
  have date := Date.fields_lt s.date_valid
  have other_date := Date.fields_lt t.date_valid
  have hour := s.hour_lt
  have minute := s.minute_lt
  have shown := s.shownSecond_le
  have other_hour := t.hour_lt
  have other_minute := t.minute_lt
  have other_shown := t.shownSecond_le
  have char (c : Char) (x y : List Char) : c :: x < c :: y ↔ x < y := by
    simp
  have years : s.date.year.toNat < t.date.year.toNat ↔ s.date.year < t.date.year := by
    unfold FourDigitYear at first second
    omega
  have year : s.date.year.toNat = t.date.year.toNat ↔ s.date.year = t.date.year := by
    unfold FourDigitYear at first second
    omega
  have no_more : ¬ ['Z'] < ['Z'] := List.lt_irrefl _
  rw [not_shown_le_iff, day_eq_iff, Date.Before, ClockBefore]
  change s.iso.toList < t.iso.toList ↔ _
  unfold FourDigitYear at first second
  rw [toList_iso first, toList_iso second,
    padded_append_lt_iff (by decide) (by omega) (by omega), char,
    padded_append_lt_iff (by decide) date.1 other_date.1, char,
    padded_append_lt_iff (by decide) date.2 other_date.2, char,
    padded_append_lt_iff (by decide) (by omega) (by omega), char,
    padded_append_lt_iff (by decide) (by omega) (by omega), char,
    padded_append_lt_iff (by decide) (by omega) (by omega), char,
    padded_append_lt_iff (by decide) s.shownMillis_lt t.shownMillis_lt, years, year]
  simp only [no_more, and_false, or_false, and_or_left, or_assoc, and_assoc]

theorem iso_le_iff {s t : Timestamp} (first : s.FourDigitYear) (second : t.FourDigitYear) :
    s.iso ≤ t.iso ↔ s.shown.le t.shown := by
  rw [← String.not_lt, iso_lt_iff second first, Bool.not_eq_false]

end Timestamp

end MockData
