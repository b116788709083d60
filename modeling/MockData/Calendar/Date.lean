/-!
# Calendar dates

The proleptic Gregorian calendar. `Date.dayNumber` counts the days from the first day of year 0;
`Date.ofDayNumber` is its inverse.
-/

namespace MockData

/-- A day of the calendar. Years before year 0 are negative; months and days start at one. -/
structure Date where
  year : Int
  month : Nat
  day : Nat
  deriving DecidableEq

namespace Date

def isLeap (year : Int) : Bool := year % 4 = 0 && (year % 100 ≠ 0 || year % 400 = 0)

def monthLengths (year : Int) : List Nat :=
  [31, if isLeap year then 29 else 28, 31, 30, 31, 30, 31, 31, 30, 31, 30, 31]

/-- The days from the first day of year 0 to the first day of `year`. -/
def daysBeforeYear (year : Int) : Int :=
  365 * year + (year + 3) / 4 - (year + 99) / 100 + (year + 399) / 400

def isValid (d : Date) : Bool :=
  1 ≤ d.month && 1 ≤ d.day && d.day ≤ (monthLengths d.year).getD (d.month - 1) 0

def dayOfYear (d : Date) : Nat :=
  ((monthLengths d.year).take (d.month - 1)).foldr (· + ·) 0 + (d.day - 1)

def dayNumber (d : Date) : Int := daysBeforeYear d.year + d.dayOfYear

/-- The year of a day. The mean length of a year gives it up to one. -/
def yearOfDayNumber (n : Int) : Int :=
  let guess := 400 * n / 146097
  if n < daysBeforeYear guess then guess - 1
  else if daysBeforeYear (guess + 1) ≤ n then guess + 1
  else guess

/-- The month that a day of the year falls in and its day, given the lengths of the months from
`month` on. -/
def splitMonths (month : Nat) : List Nat → Nat → Nat × Nat
  | [], day => (month, day + 1)
  | length :: rest, day =>
    if day < length then (month, day + 1) else splitMonths (month + 1) rest (day - length)

def ofDayNumber (n : Int) : Date :=
  let year := yearOfDayNumber n
  let (month, day) := splitMonths 1 (monthLengths year) (n - daysBeforeYear year).toNat
  ⟨year, month, day⟩

/-- The first and the last day that can be represented. -/
def firstDay : Int := dayNumber ⟨-262143, 1, 1⟩

def lastDay : Int := dayNumber ⟨262142, 12, 31⟩

def isRepresentable (d : Date) : Bool :=
  d.isValid && -262143 ≤ d.year && d.year ≤ 262142

end Date

end MockData
