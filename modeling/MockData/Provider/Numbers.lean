import MockData.Numeric.Decimal
import MockData.Provider.Basic

/-!
# Numbers, amounts, coordinates and booleans

Integers and floats between bounds, the numbers of a sequence, amounts of money, geographic
coordinates, and booleans of a given probability.
-/

namespace MockData

namespace Numbers

variable {σ : Type} [RandomSource σ]

/-- An integer between `min` and `max`, for `min ≤ max`. If that is every signed word, the word that
is drawn is taken as it is. -/
def intBetween (min max : Int64) : Draw σ Int64 := do
  let size := (max.toInt - min.toInt + 1).toNat
  let offset ← Draw.below64 size
  return Int64.ofInt (if size = 0x10000000000000000 then offset else min.toInt + offset)

def intParameters : List Parameter := [⟨"min", .int, false⟩, ⟨"max", .int, false⟩]

def int : Provider σ := .planned "number.int" intParameters fun _ a =>
  let min := (a.int? "min").getD 0
  let max := (a.int? "max").getD 10000
  if max.toInt < min.toInt then .error (.because "min must be <= max")
  else .drawing (min.toInt ≤ max.toInt) fun _ => .ofInt64 <$> intBetween min max

/-- Steps the width down until the largest fraction of it stays at or below `max`. -/
def fitWidth (min max : Binary64) : (steps : Nat) → Binary64 → Binary64
  | 0, width => width
  | steps + 1, width =>
    let top := (width.mul Binary64.belowOne).bind fun x => x.add min
    if top.le max then width
    else
      match width.previous with
      | .finite narrower => fitWidth min max steps narrower
      | .infinite _ => width

/-- The width of a range from which `max` can be drawn, none if it is too large. -/
def width? (min max : Binary64) : Option Binary64 :=
  match (max.sub min).bind fun x => x.div Binary64.belowOne with
  | .finite width => some (fitWidth min max 64 width)
  | .infinite _ => none

def floatFrom (min width : Binary64) : Draw σ Rounded := do
  return (← Draw.fraction).bind fun fraction =>
    (fraction.mul width).bind fun offset => offset.add min

def digits? (count : UInt64) : Option Nat := if count.toNat ≤ 15 then some count.toNat else none

def tooManyDigits : String := "at most 15 fraction digits are supported"

def tenThousand : Binary64 :=
  ⟨false, 10000 <<< 39, -39, by decide, by decide, by decide, by decide⟩

def floatParameters : List Parameter :=
  [⟨"min", .float, false⟩, ⟨"max", .float, false⟩, ⟨"fractionDigits", .count, false⟩]

/-- The number of fraction digits is looked at after the draw. -/
def float : Provider σ := .planned "number.float" floatParameters fun _ a =>
  let min := (a.float? "min").getD .zero
  let max := (a.float? "max").getD tenThousand
  if max.lt min then .error (.because "min must be <= max")
  else
    match width? min max with
    | none => .error (.because "range is too wide")
    | some width =>
      match a.count? "fractionDigits" with
      | none => .ok fun _ => .ofRounded <$> floatFrom min width
      | some count =>
        match digits? count with
        | none => .error (.fault (.refused tooManyDigits) 1)
        | some places => .ok fun _ => do
          return .ofRounded ((← floatFrom min width).bind fun x => x.roundPlaces places)

def oneThousand : Binary64 :=
  ⟨false, 1000 <<< 43, -43, by decide, by decide, by decide, by decide⟩

def amountParameters : List Parameter :=
  [⟨"min", .float, false⟩, ⟨"max", .float, false⟩, ⟨"dec", .count, false⟩]

/-- An amount is a text with a fixed number of decimal places. -/
def amount : Provider σ := .planned "finance.amount" amountParameters fun _ a =>
  let min := (a.float? "min").getD .zero
  let max := (a.float? "max").getD oneThousand
  if max.lt min then .error (.because "min must be <= max")
  else
    match digits? ((a.count? "dec").getD 2) with
    | none => .error (.because tooManyDigits)
    | some places =>
      match width? min max with
      | none => .error (.because "range is too wide")
      | some width => .ok fun _ => do
        let value := (← floatFrom min width).bind fun x => x.roundPlaces places
        return .string (value.fixedText places)

def coordinateParameters : List Parameter :=
  [⟨"min", .float, false⟩, ⟨"max", .float, false⟩, ⟨"precision", .count, false⟩]

/-- A coordinate between `-bound` and `bound`, whose name in messages is `boundText`. A range can be
drawn from if its bounds are in order and its width is a number. -/
def coordinate (path : String) (bound : Binary64) (boundText : String) : Provider σ :=
  .planned path coordinateParameters fun _ a =>
    let min := (a.float? "min").getD bound.neg
    let max := (a.float? "max").getD bound
    if max.lt min || min.lt bound.neg || bound.lt max then
      .error (.because
        ("bounds must satisfy -" ++ boundText ++ " <= min <= max <= " ++ boundText))
    else
      match digits? ((a.count? "precision").getD 4) with
      | none => .error (.because tooManyDigits)
      | some places => .drawing (min.le max && (max.sub min).isFinite) fun _ => do
        let fraction ← Draw.fraction
        return .ofRounded (fraction.bind fun f =>
          (max.sub min).bind fun width =>
            (f.mul width).bind fun offset =>
              (offset.add min).bind fun x => x.roundPlaces places)

def ninety : Binary64 := ⟨false, 90 <<< 46, -46, by decide, by decide, by decide, by decide⟩

def latitude : Provider σ := coordinate "location.latitude" ninety "90"

def oneHundredEighty : Binary64 :=
  ⟨false, 180 <<< 45, -45, by decide, by decide, by decide, by decide⟩

def longitude : Provider σ := coordinate "location.longitude" oneHundredEighty "180"

def clamp (n : Int) : Int64 := Int64.ofInt (max (-0x8000000000000000) (min n 0x7fffffffffffffff))

/-- The number of a record in a sequence. The index, the product and the sum are each clamped to the
signed words. -/
def sequenceAt (start step : Int64) (index : UInt64) : Int64 :=
  let offset := clamp ((clamp index.toNat).toInt * step.toInt)
  clamp (start.toInt + offset.toInt)

def sequenceParameters : List Parameter := [⟨"start", .int, false⟩, ⟨"step", .int, false⟩]

/-- A sequence draws nothing. -/
def sequence : Provider σ := .planned "number.sequence" sequenceParameters fun _ a =>
  let start := (a.int? "start").getD 1
  let step := (a.int? "step").getD 1
  if step = 0 then .error (.because "step must be non-zero")
  else .ok fun context => return .ofInt64 (sequenceAt start step context.index)

def booleanParameters : List Parameter := [⟨"probability", .float, false⟩]

def boolean : Provider σ := .planned "datatype.boolean" booleanParameters fun _ a =>
  let probability := (a.float? "probability").getD .half
  if !probability.isProbability then .error (.because "probability must be between 0 and 1")
  else .drawing probability.isProbability fun _ => .bool <$> Draw.event probability

end Numbers

end MockData
