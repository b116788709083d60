import MockData.Calendar.Timestamp
import MockData.Text.Basic

/-!
# Reading dates and timestamps

`Timestamp.parse?` takes four forms, tried in order: a date and a time of fixed width with a zone,
two forms without a zone in which fields may be shorter, and a date alone, which stands for its
midnight.
-/

namespace MockData

namespace Calendar

def digitsValue (digits : List Char) : Nat :=
  digits.foldl (fun n c => 10 * n + (c.toNat - '0'.toNat)) 0

/-- At least `least` and at most `most` digits. -/
def number? (least most : Nat) (text : List Char) : Option (Nat × List Char) :=
  let digits := (text.take most).takeWhile Char.isDigit
  if digits.length < least then none
  else some (digitsValue digits, text.drop digits.length)

def fixed? (width : Nat) (text : List Char) : Option (Nat × List Char) := number? width width text

/-- One or two digits after any blanks. -/
def field? (text : List Char) : Option (Nat × List Char) := number? 1 2 (Text.skipBlanks text)

/-- Four digits at most without a sign, any number of them with one, after any blanks. -/
def year? (text : List Char) : Option (Int × List Char) :=
  match Text.skipBlanks text with
  | '-' :: rest => (number? 1 rest.length rest).map fun (n, rest) => (-n, rest)
  | '+' :: rest => (number? 1 rest.length rest).map fun (n, rest) => (n, rest)
  | rest => (number? 1 4 rest).map fun (n, rest) => (n, rest)

def char? (c : Char) : List Char → Option (List Char)
  | [] => none
  | d :: rest => if d = c then some rest else none

/-- The end of the text. -/
def atEnd {α : Type} (value : α) (rest : List Char) : Option α :=
  if rest.isEmpty then some value else none

def date? (year : Int) (month day : Nat) : Option Date :=
  let d : Date := ⟨year, month, day⟩
  if d.isRepresentable then some d else none

/-- A time of a day; second 60 is the second half of a leap second. -/
def timestamp? (d : Date) (hour minute second nano : Nat) : Option Timestamp :=
  if h : hour < 24 ∧ minute < 60 ∧ second ≤ 60 ∧ nano < 1000000000 then
    if hs : second = 60 then
      some ⟨d.dayNumber, hour * 3600 + minute * 60 + 59, 1000000000 + nano, by omega, by omega⟩
    else
      some ⟨d.dayNumber, hour * 3600 + minute * 60 + second, nano, by omega, by omega⟩
  else none

def dateFields? (text : List Char) : Option (Date × List Char) := do
  let (year, rest) ← year? text
  let rest ← char? '-' rest
  let (month, rest) ← field? rest
  let rest ← char? '-' rest
  let (day, rest) ← field? rest
  return (← date? year month day, rest)

def clockFields? (d : Date) (text : List Char) : Option Timestamp := do
  let (hour, rest) ← field? text
  let rest ← char? ':' rest
  let (minute, rest) ← field? rest
  let rest ← char? ':' rest
  let (second, rest) ← field? rest
  atEnd () rest
  timestamp? d hour minute second 0

def joined? (text : List Char) : Option Timestamp := do
  let (d, rest) ← dateFields? text
  clockFields? d (← char? 'T' rest)

def spaced? (text : List Char) : Option Timestamp := do
  let (d, rest) ← dateFields? text
  clockFields? d rest

def bareDate? (text : List Char) : Option Timestamp := do
  let (d, rest) ← dateFields? text
  atEnd () rest
  return .midnight d.dayNumber

/-- The digits after a point as nanoseconds; those after the ninth are dropped. -/
def nanos? (text : List Char) : Option (Nat × List Char) :=
  match text with
  | '.' :: rest => do
    let digits := rest.takeWhile Char.isDigit
    let (n, _) ← number? 1 9 digits
    return (n * Nat.pow 10 (9 - digits.length), rest.dropWhile Char.isDigit)
  | _ => some (0, text)

def zone? (text : List Char) : Option (Int × List Char) :=
  match text with
  | 'Z' :: rest => some (0, rest)
  | 'z' :: rest => some (0, rest)
  | sign :: rest => do
    guard (sign = '+' || sign = '-' || sign = '\u2212')
    let (hours, rest) ← fixed? 2 rest
    let rest ← char? ':' rest
    let (minutes, rest) ← fixed? 2 rest
    guard (hours < 24 && minutes < 60)
    let seconds : Int := hours * 3600 + minutes * 60
    return (if sign = '+' then seconds else -seconds, rest)
  | [] => none

def separator? : List Char → Option (List Char)
  | 'T' :: rest => some rest
  | 't' :: rest => some rest
  | ' ' :: rest => some rest
  | _ => none

/-- Date, time and zone in fields of fixed width, taken to universal time. -/
def zoned? (text : List Char) : Option Timestamp := do
  let (year, rest) ← fixed? 4 text
  let (month, rest) ← fixed? 2 (← char? '-' rest)
  let (day, rest) ← fixed? 2 (← char? '-' rest)
  let (hour, rest) ← fixed? 2 (← separator? rest)
  let (minute, rest) ← fixed? 2 (← char? ':' rest)
  let (second, rest) ← fixed? 2 (← char? ':' rest)
  let (nano, rest) ← nanos? rest
  let (offset, rest) ← zone? rest
  atEnd () rest
  let d ← date? year month day
  let t ← timestamp? d hour minute second nano
  return .ofSeconds t.day (t.second - offset) t.nano t.nano_lt

end Calendar

/-- Reads a timestamp in one of the four forms. -/
def Timestamp.parse? (text : String) : Option Timestamp :=
  let chars := text.toList
  Calendar.zoned? chars <|> Calendar.joined? chars <|> Calendar.spaced? chars <|>
    Calendar.bareDate? chars

/-- Reads a date alone; blanks may stand around each of its parts. -/
def Date.parse? (text : String) : Option Date := do
  let (year, rest) ← Calendar.year? text.toList
  let (month, rest) ← Calendar.field? (← Calendar.char? '-' (Text.skipBlanks rest))
  let (day, rest) ← Calendar.field? (← Calendar.char? '-' (Text.skipBlanks rest))
  Calendar.atEnd () (Text.skipBlanks rest)
  Calendar.date? year month day

end MockData
