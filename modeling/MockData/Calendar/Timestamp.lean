import MockData.Calendar.Date
import MockData.Text.Basic

/-!
# Timestamps

A timestamp is a day, a second of that day and the nanoseconds in that second. A second that lasts
two seconds stands for a leap second: its second half is shown as second 60. Adding time leaves a
leap second only when the sum leaves it.

Years from 0 to 9999 have four digits, all others a sign and at least four digits. `Timestamp.iso`
is the text that templates yield, with milliseconds and the zone of universal time.
-/

namespace MockData

structure Timestamp where
  day : Int
  second : Nat
  nano : Nat
  second_lt : second < 86400
  nano_lt : nano < 2000000000
  deriving DecidableEq

namespace Timestamp

def midnight (day : Int) : Timestamp := ⟨day, 0, 0, by decide, by decide⟩

def nanosPerSecond : Int := 1000000000

def nanosPerMilli : Int := 1000000

def le (s t : Timestamp) : Bool :=
  if s.day ≠ t.day then decide (s.day ≤ t.day)
  else if s.second ≠ t.second then decide (s.second ≤ t.second)
  else decide (s.nano ≤ t.nano)

def isRepresentable (t : Timestamp) : Bool := Date.firstDay ≤ t.day && t.day ≤ Date.lastDay

/-- The second of the day a number of seconds after midnight of `day`. -/
def ofSeconds (day seconds : Int) (nano : Nat) (nano_lt : nano < 2000000000) : Timestamp where
  day := day + seconds / 86400
  second := (seconds % 86400).toNat
  nano := nano
  second_lt := by omega
  nano_lt := nano_lt

/-- The time `seconds` and `nanos` later. Both have the same sign and the nanoseconds are less than
a second. -/
def add (t : Timestamp) (seconds nanos : Int) : Timestamp :=
  let leap := nanosPerSecond ≤ t.nano
  if leap && seconds = 0 && (nanos ≤ 0 || t.nano + nanos < 2 * nanosPerSecond) then
    { t with nano := min (t.nano + nanos).toNat 1999999999, nano_lt := by omega }
  else
    let second : Int := if leap && seconds < 0 then t.second + 1 else t.second
    let nano : Int := (if leap then t.nano - nanosPerSecond else t.nano) + nanos
    ofSeconds t.day (second + seconds + nano / nanosPerSecond) (nano % nanosPerSecond).toNat
      (by simp only [nanosPerSecond]; omega)

def addMillis (t : Timestamp) (millis : Nat) : Timestamp :=
  t.add (millis / 1000 : Nat) ((millis % 1000 : Nat) * nanosPerMilli)

def addDays (t : Timestamp) (days : Int) : Timestamp := t.add (86400 * days) 0

/-- The nanoseconds from `s` to `t`. A leap second between two seconds of a day counts. -/
def nanosBetween (s t : Timestamp) : Int :=
  let leap : Int :=
    if s.second < t.second && nanosPerSecond ≤ s.nano then 1
    else if t.second < s.second && nanosPerSecond ≤ t.nano then -1
    else 0
  ((t.day - s.day) * 86400 + t.second - s.second + leap) * nanosPerSecond + t.nano - s.nano

/-- The whole milliseconds from `s` to `t`, none if `t` is not later. -/
def millisBetween (s t : Timestamp) : Nat := (nanosBetween s t / nanosPerMilli).toNat

def date (t : Timestamp) : Date := .ofDayNumber t.day

def hour (t : Timestamp) : Nat := t.second / 3600

def minute (t : Timestamp) : Nat := t.second / 60 % 60

/-- The second that is shown: 60 in a leap second. -/
def shownSecond (t : Timestamp) : Nat := t.second % 60 + t.nano / 1000000000

def shownNano (t : Timestamp) : Nat := t.nano % 1000000000

end Timestamp

/-! ### Text -/

def Date.yearText (year : Int) : String :=
  if 0 ≤ year ∧ year ≤ 9999 then padded 4 year.toNat
  else (if year < 0 then "-" else "+") ++ padded 4 year.natAbs

def Date.text (d : Date) : String :=
  Date.yearText d.year ++ "-" ++ padded 2 d.month ++ "-" ++ padded 2 d.day

namespace Timestamp

def clockText (t : Timestamp) : String :=
  padded 2 t.hour ++ ":" ++ padded 2 t.minute ++ ":" ++ padded 2 t.shownSecond

/-- The fraction of a second in three, six or nine digits, as many as it needs. -/
def fractionText (nano : Nat) : String :=
  if nano = 0 then ""
  else if nano % 1000000 = 0 then "." ++ padded 3 (nano / 1000000)
  else if nano % 1000 = 0 then "." ++ padded 6 (nano / 1000)
  else "." ++ padded 9 nano

/-- Date and time apart by a blank. -/
def text (t : Timestamp) : String :=
  t.date.text ++ " " ++ t.clockText ++ fractionText t.shownNano

/-- Date and time in universal time, the fraction cut to milliseconds. -/
def iso (t : Timestamp) : String :=
  t.date.text ++ "T" ++ t.clockText ++ "." ++ padded 3 (t.shownNano / 1000000) ++ "Z"

end Timestamp

end MockData
