import MockData.Calendar.Timestamp
import MockData.Provider.Basic

/-!
# Dates

Instants in a window of time: between two given instants, within a span before or after the
reference time, or such that a person born then has an age between two bounds. A year counts as 365
days. Every instant is a whole number of milliseconds after the start of its window. A window that
ends in the last leap second of the calendar has instants beyond it, which are no times.
-/

namespace MockData

namespace Dates

variable {σ : Type} [RandomSource σ]

/-- An instant between two instants. If the second is not later, it is the first. -/
def instantBetween (start stop : Timestamp) : Draw σ Timestamp := do
  return start.addMillis (← Draw.below64 (start.millisBetween stop + 1))

/-- The text of an instant in the window, if the calendar has it. -/
def drawWindow (window : Timestamp × Timestamp) : Draw σ (Except ProviderError Json) := do
  let t ← instantBetween window.1 window.2
  return if t.isRepresentable then .ok (.string t.iso) else .error .emptyRange

/-- The verdict is a window of time. -/
def windowed (path : String) (parameters : List Parameter)
    (window : Timestamp → Arguments → Except Rejection (Timestamp × Timestamp)) : Provider σ :=
  .decided path parameters window fun _ => drawWindow

def betweenParameters : List Parameter := [⟨"from", .timestamp, true⟩, ⟨"to", .timestamp, true⟩]

def between : Provider σ := windowed "date.between" betweenParameters fun _ a =>
  match a.timestamp? "from", a.timestamp? "to" with
  | none, _ => .error (.because "requires params.from")
  | _, none => .error (.because "requires params.to")
  | some start, some stop =>
    if start.le stop then .ok (start, stop)
    else .error (.because "from must be <= to")

inductive SpanUnit where
  | years
  | days
  deriving DecidableEq

namespace SpanUnit

def key : SpanUnit → String
  | .years => "years"
  | .days => "days"

def lengthInDays : SpanUnit → Nat
  | .years => 365
  | .days => 1

/-- The days of a span, which must last less than `2 ^ 63` milliseconds. -/
def span? (unit : SpanUnit) (amount : UInt64) : Option Nat :=
  let days := amount.toNat * unit.lengthInDays
  if days * 86400000 < 0x8000000000000000 then some days else none

end SpanUnit

/-- The time some days later, if it can be represented. -/
def shift? (t : Timestamp) (days : Int) : Option Timestamp :=
  let shifted := t.addDays days
  if shifted.isRepresentable then some shifted else none

/-- The reference time of a call: the one in its arguments, else that of the record. -/
def referenceOf (reference : Timestamp) (a : Arguments) : Timestamp :=
  (a.timestamp? "refDate").getD reference

inductive Direction where
  | past
  | future
  deriving DecidableEq

def window? (direction : Direction) (reference : Timestamp) (days : Nat) :
    Option (Timestamp × Timestamp) :=
  match direction with
  | .past => (shift? reference (-days)).map fun start => (start, reference)
  | .future => (shift? reference days).map fun stop => (reference, stop)

def relativeParameters (unit : SpanUnit) : List Parameter :=
  [⟨unit.key, .count, false⟩, ⟨"refDate", .timestamp, false⟩]

def relative (path : String) (direction : Direction) (unit : SpanUnit) : Provider σ :=
  windowed path (relativeParameters unit) fun reference a =>
    match unit.span? ((a.count? unit.key).getD 1) with
    | none => .error (.because (unit.key ++ " is out of range"))
    | some days =>
      match window? direction (referenceOf reference a) days with
      | none => .error (.because "date span is out of range")
      | some window => .ok window

def past : Provider σ := relative "date.past" .past .years

def future : Provider σ := relative "date.future" .future .years

def recent : Provider σ := relative "date.recent" .past .days

def birthdateParameters : List Parameter :=
  [⟨"minAge", .count, false⟩, ⟨"maxAge", .count, false⟩, ⟨"refDate", .timestamp, false⟩]

def yearsBefore? (reference : Timestamp) (age : UInt64) : Option Timestamp :=
  (SpanUnit.years.span? age).bind fun days => shift? reference (-days)

def birthdate : Provider σ := windowed "date.birthdate" birthdateParameters fun reference a =>
  let reference := referenceOf reference a
  let minAge := (a.count? "minAge").getD 18
  let maxAge := (a.count? "maxAge").getD 80
  if maxAge.toNat < minAge.toNat then .error (.because "minAge must be <= maxAge")
  else
    match yearsBefore? reference maxAge, yearsBefore? reference minAge with
    | some start, some stop => .ok (start, stop)
    | _, _ => .error (.because "age is out of range")

end Dates

end MockData
