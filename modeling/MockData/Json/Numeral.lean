import MockData.Json.Value

/-!
# JSON numerals

A numeral without fraction and exponent that fits a word is an integer. Every other numeral is read
in two roundings: its digits before the point and then those after it are collected in a word of 64
bits as long as they fit, that word goes to the nearest binary64 number, and the result is
multiplied or divided by a power of ten.
-/

namespace MockData

/-- Why a text is not JSON: it ends too early, or it has something out of place. -/
inductive JsonFault where
  | endOfText
  | misplaced
  deriving DecidableEq

namespace JsonFault

/-- What is wrong where a character is missing before `rest`. -/
def expecting (rest : List Char) : JsonFault :=
  match rest with
  | [] => .endOfText
  | _ :: _ => .misplaced

end JsonFault

namespace Numeral

/-- The digits read so far, as a word, and the power of ten that they stand for. -/
structure Digits where
  word : Nat
  exponent : Int

def digitValue (c : Char) : Nat := c.toNat - '0'.toNat

def fits (word : Nat) (c : Char) : Bool := decide (10 * word + digitValue c < 0x10000000000000000)

/-- The digits before the point; after one that does not fit, each counts as a factor ten. -/
def whole (d : Digits) (full : Bool) : List Char → Digits × Bool × List Char
  | [] => (d, full, [])
  | c :: rest =>
    if c.isDigit then
      if !full && fits d.word c then whole { d with word := 10 * d.word + digitValue c } full rest
      else whole { d with exponent := d.exponent + 1 } true rest
    else (d, full, c :: rest)

/-- The digits after the point; one that does not fit is dropped with all after it. -/
def fraction (d : Digits) (full : Bool) : List Char → Digits × List Char
  | [] => (d, [])
  | c :: rest =>
    if c.isDigit then
      if !full && fits d.word c then
        fraction ⟨10 * d.word + digitValue c, d.exponent - 1⟩ full rest
      else fraction d true rest
    else (d, c :: rest)

/-- The digits of an exponent. None if they exceed a signed word of 32 bits. -/
def exponent (value : Option Nat) : List Char → Option Nat × List Char
  | [] => (value, [])
  | c :: rest =>
    if c.isDigit then
      exponent (value.bind fun v =>
        let next := 10 * v + digitValue c
        if next < 0x80000000 then some next else none) rest
    else (value, c :: rest)

def powerOfTen (n : Nat) : Rounded := Binary64.ofNat (Nat.pow 10 n)

/-- Divides by `10 ^ n`; the quotient of a finite number by a power of ten is finite. -/
def divByPower (x : Binary64) (n : Nat) : Rounded :=
  (powerOfTen n).bind fun p => x.div p

/-- Divides in steps of `10 ^ 308`; after three of them a word has become zero. -/
def scaleDown : (steps : Nat) → Binary64 → (places : Nat) → Rounded
  | 0, _, _ => .finite Binary64.zero
  | steps + 1, x, places =>
    if places ≤ 308 then divByPower x places
    else if x.isZero then .finite x
    else (divByPower x 308).bind fun y => scaleDown steps y (places - 308)

/-- The word to the nearest binary64 number, times its power of ten. -/
def scale (d : Digits) : Rounded :=
  (Binary64.ofNat d.word).bind fun x =>
    if 0 ≤ d.exponent then
      if d.exponent ≤ 308 then (powerOfTen d.exponent.toNat).bind fun p => x.mul p
      else if x.isZero then .finite x
      else .infinite false
    else scaleDown 4 x (-d.exponent).toNat

/-- A magnitude that is too large is an error. -/
def toFloat (negative : Bool) (d : Digits) : Except JsonFault JsonNumber :=
  match scale d with
  | .finite x => .ok (.float { x with negative })
  | .infinite _ => .error .misplaced

/-- The exponent after `e`, with its optional sign. -/
def withExponent (negative : Bool) (d : Digits) (rest : List Char) :
    Except JsonFault (JsonNumber × List Char) :=
  let (down, rest) :=
    match rest with
    | '+' :: r => (false, r)
    | '-' :: r => (true, r)
    | r => (false, r)
  match rest with
  | c :: r =>
    if c.isDigit then
      match exponent (some 0) (c :: r) with
      | (some e, r) => do
        let exponent := if down then d.exponent - e else d.exponent + e
        let n ← toFloat negative { d with exponent }
        return (n, r)
      | (none, r) =>
        if d.word ≠ 0 && !down then .error .misplaced
        else .ok (.float { Binary64.zero with negative }, r)
    else .error .misplaced
  | [] => .error .endOfText

/-- What follows the digits before the point and the fraction: an exponent, or the end. -/
def finish (negative : Bool) (d : Digits) (rest : List Char) :
    Except JsonFault (JsonNumber × List Char) :=
  match rest with
  | 'e' :: r | 'E' :: r => withExponent negative d r
  | r => do
    let n ← toFloat negative d
    return (n, r)

/-- A whole numeral. It is an integer if it fits a signed or unsigned word; zero with a sign is
not. -/
def ofWord (negative : Bool) (word : Nat) : Except JsonFault JsonNumber :=
  let n : Int := if negative then -(word : Int) else word
  if h : -0x8000000000000000 ≤ n ∧ n < 0x10000000000000000 ∧ (word = 0 → negative = false) then
    .ok (.int n ⟨h.1, h.2.1⟩)
  else toFloat negative ⟨word, 0⟩

/-- Reads a numeral without its sign. A leading zero stands alone. -/
def readUnsigned (negative : Bool) (text : List Char) :
    Except JsonFault (JsonNumber × List Char) :=
  match text with
  | [] => .error .endOfText
  | c :: rest =>
    if !c.isDigit then .error .misplaced
    else if c = '0' && (rest.headD ' ').isDigit then .error .misplaced
    else
      match whole ⟨0, 0⟩ false (c :: rest) with
      | (d, _, '.' :: r) =>
        if (r.headD ' ').isDigit then
          let (d, r) := fraction d false r
          finish negative d r
        else .error (.expecting r)
      | (d, full, r) =>
        match r with
        | 'e' :: _ | 'E' :: _ => finish negative d r
        | _ =>
          if full then finish negative d r
          else do
            let n ← ofWord negative d.word
            return (n, r)

/-- Reads a numeral, which starts with a sign or a digit. -/
def read (text : List Char) : Except JsonFault (JsonNumber × List Char) :=
  match text with
  | '-' :: rest => readUnsigned true rest
  | _ => readUnsigned false text

end Numeral

end MockData
