import Mathlib.Algebra.Ring.Nat
import Mathlib.Data.List.GetD
import MockData.Calendar.Date

/-!
# Days and dates

Every day number has a date that exists, and is the day number of that date. Years are 365 days
long, or 366, and 97 in 400 years are the longer ones. A date that stands later in the year than
another one has more days before it in its own year, up to the leap day.
-/

namespace MockData

namespace Date

/-! ### Years -/

def yearLength (leap : Bool) : Nat := 365 + if leap then 1 else 0

theorem le_yearLength (leap : Bool) : 365 ≤ yearLength leap := Nat.le_add_right _ _

theorem yearLength_le (leap : Bool) : yearLength leap ≤ 366 := by cases leap <;> decide

theorem daysBeforeYear_succ (year : Int) :
    daysBeforeYear (year + 1) = daysBeforeYear year + yearLength (isLeap year) := by
  unfold daysBeforeYear yearLength isLeap
  simp only [Bool.and_eq_true, Bool.or_eq_true, decide_eq_true_eq]
  split <;> omega

theorem daysBeforeYear_mono {year later : Int} (ordered : year ≤ later) :
    daysBeforeYear year ≤ daysBeforeYear later := by
  unfold daysBeforeYear
  omega

/-- The days of some years in a row, or of one taken back, from below and from above. -/
theorem daysBeforeYear_diff {year later : Int} (ordered : year ≤ later + 1) :
    365 * (later - year) ≤ daysBeforeYear later - daysBeforeYear year + 1 ∧
      400 * (daysBeforeYear later - daysBeforeYear year) ≤ 146097 * (later - year) + 1095 := by
  unfold daysBeforeYear
  omega

theorem yearOfDayNumber_bounds (n : Int) :
    daysBeforeYear (yearOfDayNumber n) ≤ n ∧ n < daysBeforeYear (yearOfDayNumber n + 1) := by
  unfold yearOfDayNumber
  dsimp only
  have split := Int.ediv_mul_add_emod (400 * n) 146097
  have least := Int.emod_nonneg (400 * n) (show (146097 : Int) ≠ 0 by decide)
  have most := Int.emod_lt_of_pos (400 * n) (show (0 : Int) < 146097 by decide)
  generalize 400 * n / 146097 = guess at *
  generalize 400 * n % 146097 = rest at *
  -- The guess is at most one year off.
  have below : daysBeforeYear (guess - 1) ≤ n := by
    unfold daysBeforeYear
    omega
  have above : n < daysBeforeYear (guess + 1 + 1) := by
    unfold daysBeforeYear
    omega
  split
  · exact ⟨below, by rw [Int.sub_add_cancel]; assumption⟩
  · split
    · exact ⟨by assumption, above⟩
    · exact ⟨by omega, by omega⟩

/-! ### Months -/

def lengthsOf (leap : Bool) : List Nat :=
  [31, if leap then 29 else 28, 31, 30, 31, 30, 31, 31, 30, 31, 30, 31]

/-- The days of a year before a month, which is counted from zero here. -/
def daysBefore (leap : Bool) (month : Nat) : Nat := ((lengthsOf leap).take month).sum

/-- A month ends before a later one starts, in another year at most a day after that. -/
theorem daysBefore_step : ∀ leap other : Bool, ∀ month < 12, ∀ later < 12, month < later →
    daysBefore leap month + (lengthsOf leap).getD month 0 ≤ daysBefore other later + 1 := by
  decide +kernel

/-- Within one year a month ends before a later one starts. -/
theorem daysBefore_later : ∀ leap : Bool, ∀ month < 12, ∀ later < 12, month < later →
    daysBefore leap month + (lengthsOf leap).getD month 0 ≤ daysBefore leap later := by
  decide +kernel

theorem daysBefore_other : ∀ leap other : Bool, ∀ month < 12,
    daysBefore leap month ≤ daysBefore other month + 1 := by
  decide +kernel

theorem daysBefore_end : ∀ leap : Bool, ∀ month < 12,
    daysBefore leap month + (lengthsOf leap).getD month 0 ≤ yearLength leap := by
  decide +kernel

theorem exists_of_isValid {d : Date} (valid : d.isValid) :
    1 ≤ d.month ∧ d.month - 1 < 12 ∧ 1 ≤ d.day ∧
      d.day ≤ (lengthsOf (isLeap d.year)).getD (d.month - 1) 0 := by
  unfold isValid at valid
  simp only [Bool.and_eq_true, decide_eq_true_eq] at valid
  obtain ⟨⟨month, some⟩, most⟩ := valid
  refine ⟨month, Nat.lt_of_not_le fun far => ?_, some, most⟩
  have none : (monthLengths d.year).getD (d.month - 1) 0 = 0 := List.getD_eq_default _ _ far
  omega

theorem dayOfYear_eq (d : Date) :
    d.dayOfYear = daysBefore (isLeap d.year) (d.month - 1) + (d.day - 1) := by
  rw [dayOfYear, daysBefore, List.sum_eq_foldr]
  rfl

theorem dayOfYear_lt {d : Date} (valid : d.isValid) :
    d.dayOfYear < yearLength (isLeap d.year) := by
  obtain ⟨_, month, some, most⟩ := exists_of_isValid valid
  have whole := daysBefore_end (isLeap d.year) _ month
  rw [dayOfYear_eq]
  omega

/-- Of two dates, whose years do not count, the one that stands earlier in the year. -/
theorem dayOfYear_le {d e : Date} (valid : d.isValid) (other : e.isValid)
    (earlier : d.month < e.month ∨ d.month = e.month ∧ d.day ≤ e.day) :
    d.dayOfYear ≤ e.dayOfYear + 1 := by
  obtain ⟨start, month, some, most⟩ := exists_of_isValid valid
  obtain ⟨_, otherMonth, _, _⟩ := exists_of_isValid other
  rw [dayOfYear_eq, dayOfYear_eq]
  rcases earlier with before | ⟨same, day⟩
  · have step := daysBefore_step (isLeap d.year) (isLeap e.year) _ month _ otherMonth (by omega)
    omega
  · have step := daysBefore_other (isLeap d.year) (isLeap e.year) _ month
    rw [same] at step ⊢
    omega

/-! ### The date of a day -/

/-- The day falls into the month that it is found in. -/
theorem splitMonths_spec (first day : Nat) {lengths : List Nat} (inside : day < lengths.sum) :
    ∃ month, splitMonths first lengths day =
        (first + month, day - (lengths.take month).sum + 1) ∧
      (lengths.take month).sum ≤ day ∧
      day < (lengths.take month).sum + lengths.getD month 0 := by
  induction lengths generalizing first day with
  | nil => exact absurd inside (Nat.not_lt_zero day)
  | cons length rest ih =>
    rw [splitMonths]
    split
    · rename_i here
      refine ⟨0, by simp, Nat.zero_le _, ?_⟩
      simpa using here
    · rename_i later
      rw [List.sum_cons] at inside
      obtain ⟨month, found, least, most⟩ := ih (first + 1) (day - length) (by omega)
      refine ⟨month + 1, ?_, ?_, ?_⟩
      · rw [found, List.take_succ_cons, List.sum_cons, Nat.sub_sub, Nat.add_assoc, Nat.add_comm 1]
      · rw [List.take_succ_cons, List.sum_cons]
        omega
      · rw [List.take_succ_cons, List.sum_cons, List.getD_cons_succ]
        omega

theorem sum_lengthsOf (leap : Bool) : (lengthsOf leap).sum = yearLength leap := by
  cases leap <;> rfl

theorem ofDayNumber_spec (n : Int) :
    (ofDayNumber n).isValid ∧ (ofDayNumber n).dayNumber = n := by
  obtain ⟨least, most⟩ := yearOfDayNumber_bounds n
  rw [daysBeforeYear_succ] at most
  let leap := isLeap (yearOfDayNumber n)
  let day := (n - daysBeforeYear (yearOfDayNumber n)).toNat
  have inside : day < (lengthsOf leap).sum := by
    rw [sum_lengthsOf]
    dsimp only [day, leap]
    omega
  obtain ⟨month, found, first, last⟩ := splitMonths_spec 1 day inside
  have date : ofDayNumber n =
      ⟨yearOfDayNumber n, 1 + month, day - ((lengthsOf leap).take month).sum + 1⟩ := by
    have parts : splitMonths 1 (monthLengths (yearOfDayNumber n)) day = _ := found
    rw [ofDayNumber]
    dsimp only
    rw [parts]
  rw [date]
  constructor
  · unfold isValid
    simp only [Bool.and_eq_true, decide_eq_true_eq, Nat.add_sub_cancel_left]
    refine ⟨⟨by omega, by omega⟩, ?_⟩
    change _ ≤ (lengthsOf leap).getD month 0
    omega
  · rw [dayNumber, dayOfYear_eq]
    dsimp only
    rw [Nat.add_sub_cancel_left, Nat.add_sub_cancel]
    have split : daysBefore leap month + (day - ((lengthsOf leap).take month).sum) = day :=
      Nat.add_sub_cancel' first
    rw [split]
    omega

/-! ### Dates that can be represented -/

theorem dayNumber_year {d : Date} (valid : d.isValid) :
    daysBeforeYear d.year ≤ d.dayNumber ∧ d.dayNumber < daysBeforeYear (d.year + 1) := by
  have inside := dayOfYear_lt valid
  rw [daysBeforeYear_succ, dayNumber]
  omega

def Before (d e : Date) : Prop :=
  d.year < e.year ∨ d.year = e.year ∧
    (d.month < e.month ∨ d.month = e.month ∧ d.day < e.day)

theorem dayNumber_lt_of_before {d e : Date} (valid : d.isValid) (other : e.isValid)
    (before : d.Before e) : d.dayNumber < e.dayNumber := by
  rcases before with earlier | ⟨same, earlier⟩
  · have years := daysBeforeYear_mono (show d.year + 1 ≤ e.year by omega)
    exact Int.lt_of_lt_of_le (dayNumber_year valid).2
      (Int.le_trans years (dayNumber_year other).1)
  · obtain ⟨start, month, some, most⟩ := exists_of_isValid valid
    obtain ⟨_, otherMonth, least, _⟩ := exists_of_isValid other
    rw [dayNumber, dayNumber, dayOfYear_eq, dayOfYear_eq, same]
    rw [same] at most
    rcases earlier with before | ⟨inMonth, day⟩
    · have step := daysBefore_later (isLeap e.year) _ month _ otherMonth (by omega)
      omega
    · rw [inMonth]
      omega

theorem dayNumber_lt_iff {d e : Date} (valid : d.isValid) (other : e.isValid) :
    d.dayNumber < e.dayNumber ↔ d.Before e := by
  refine ⟨fun less => ?_, dayNumber_lt_of_before valid other⟩
  by_contra notBefore
  have turned : e = d ∨ e.Before d := by
    unfold Before at *
    cases d
    cases e
    simp only [mk.injEq]
    dsimp only at notBefore
    omega
  rcases turned with rfl | before
  · exact Int.lt_irrefl _ less
  · exact Int.lt_asymm less (dayNumber_lt_of_before other valid before)

theorem isRepresentable_iff {d : Date} :
    d.isRepresentable ↔ d.isValid ∧ -262143 ≤ d.year ∧ d.year ≤ 262142 := by
  simp [isRepresentable, and_assoc]

theorem dayNumber_bounds {d : Date} (representable : d.isRepresentable) :
    firstDay ≤ d.dayNumber ∧ d.dayNumber ≤ lastDay := by
  obtain ⟨valid, first, last⟩ := isRepresentable_iff.mp representable
  have start : firstDay = daysBeforeYear (-262143) := by decide +kernel
  have stop : lastDay + 1 = daysBeforeYear (262142 + 1) := by decide +kernel
  have least := daysBeforeYear_mono first
  have most := daysBeforeYear_mono (show d.year + 1 ≤ 262142 + 1 by omega)
  have inside := dayNumber_year valid
  omega

end Date

end MockData
