/-!
# Binary64 numbers

A finite binary64 number is a sign, a significand below `2 ^ 53` and an exponent. Every one of them
is a whole number of the smallest positive one, `2 ^ -1074`; `units` is that whole number, so order
and sums are those of the integers. `round` takes a quotient of natural numbers to the nearest
binary64 number (a half goes to the even significand), and every arithmetic operation is the exact
result, rounded once.
-/

namespace MockData

/-- A finite binary64 number: `significand * 2 ^ exponent`, negated when `negative`. Zero has both
signs. -/
structure Binary64 where
  negative : Bool
  significand : Nat
  exponent : Int
  significand_lt : significand < 0x20000000000000
  exponent_ge : -1074 ≤ exponent
  exponent_le : exponent ≤ 971
  canonical : 0x10000000000000 ≤ significand ∨ exponent = -1074
  deriving DecidableEq

/-- The result of a rounding: a number, or a magnitude too large for one. -/
inductive Rounded where
  | finite (x : Binary64)
  | infinite (negative : Bool)
  deriving DecidableEq

namespace Binary64

def zero : Binary64 := ⟨false, 0, -1074, by decide, by decide, by decide, by decide⟩

def half : Binary64 := ⟨false, 0x10000000000000, -53, by decide, by decide, by decide, by decide⟩

/-- The largest fraction in steps of `2 ^ -52`. -/
def belowOne : Binary64 :=
  ⟨false, 0x1ffffffffffffe, -53, by decide, by decide, by decide, by decide⟩

def one : Binary64 := ⟨false, 0x10000000000000, -52, by decide, by decide, by decide, by decide⟩

/-- The magnitude, counted in the smallest positive number `2 ^ -1074`. -/
def magnitude (x : Binary64) : Nat := x.significand <<< (x.exponent + 1074).toNat

/-- The value, counted in the smallest positive number `2 ^ -1074`. -/
def units (x : Binary64) : Int := if x.negative then -(x.magnitude : Int) else x.magnitude

def unitsPerOne : Nat := 1 <<< 1074

def isZero (x : Binary64) : Bool := x.significand == 0

def le (x y : Binary64) : Bool := decide (x.units ≤ y.units)

def lt (x y : Binary64) : Bool := decide (x.units < y.units)

def isProbability (x : Binary64) : Bool := zero.le x && x.le one

def neg (x : Binary64) : Binary64 := { x with negative := !x.negative }

def isIntegral (x : Binary64) : Bool := x.magnitude % unitsPerOne == 0

def floorMagnitude (x : Binary64) : Nat := x.magnitude / unitsPerOne

end Binary64

/-- The quotient to the nearest whole number; a half goes to the even one. -/
def divNearestEven (n d : Nat) : Nat :=
  let q := n / d
  let r := n % d
  if 2 * r < d then q else if d < 2 * r then q + 1 else q + q % 2

namespace Rounded

/-- The number with these parts, if they are in range. -/
def ofParts (negative : Bool) (significand : Nat) (exponent : Int) : Rounded :=
  if h : significand < 0x20000000000000 ∧ -1074 ≤ exponent ∧ exponent ≤ 971 ∧
      (0x10000000000000 ≤ significand ∨ exponent = -1074) then
    .finite ⟨negative, significand, exponent, h.1, h.2.1, h.2.2.1, h.2.2.2⟩
  else
    .infinite negative

/-- `n / d` counted in `2 ^ exponent`, to the nearest whole number. -/
def scaled (n d : Nat) (exponent : Int) : Nat :=
  if 0 ≤ exponent then divNearestEven n (d <<< exponent.toNat)
  else divNearestEven (n <<< (-exponent).toNat) d

/-- The exponent at which `n / d` has a significand of 53 bits, but never below that of the
smallest number. -/
def exponentFor (n d : Nat) : Int :=
  let guess : Int := (n.log2 : Int) - d.log2 - 53
  let atLeast : Bool :=
    if 0 ≤ guess then d <<< (guess.toNat + 53) ≤ n else d <<< 53 ≤ n <<< (-guess).toNat
  max (-1074) (if atLeast then guess + 1 else guess)

end Rounded

namespace Binary64

/-- The number nearest to `n / d`, negated when `negative`; a half goes to the even significand.
`d` is positive. -/
def round (negative : Bool) (n d : Nat) : Rounded :=
  if n = 0 then .finite { zero with negative }
  else
    let e := Rounded.exponentFor n d
    let m := Rounded.scaled n d e
    if m = 0x20000000000000 then .ofParts negative 0x10000000000000 (e + 1)
    else .ofParts negative m e

def ofNat (n : Nat) : Rounded := round false n 1

def ofInt (n : Int) : Rounded := round (decide (n < 0)) n.natAbs 1

/-- An exact sum of nothing is negative only if both parts are. -/
def add (x y : Binary64) : Rounded :=
  let sum := x.units + y.units
  if sum = 0 then .finite { zero with negative := x.negative && y.negative }
  else round (decide (sum < 0)) sum.natAbs unitsPerOne

def sub (x y : Binary64) : Rounded := x.add y.neg

def mul (x y : Binary64) : Rounded :=
  let e := x.exponent + y.exponent
  let m := x.significand * y.significand
  round (x.negative != y.negative) (m <<< e.toNat) (1 <<< (-e).toNat)

/-- The quotient by a number other than zero. -/
def div (x y : Binary64) : Rounded :=
  let e := x.exponent - y.exponent
  round (x.negative != y.negative) (x.significand <<< e.toNat) (y.significand <<< (-e).toNat)

/-- The nearest whole number; a half goes away from zero. -/
def roundHalfAway (x : Binary64) : Rounded :=
  round x.negative ((2 * x.magnitude + unitsPerOne) / (2 * unitsPerOne)) 1

/-- The next smaller number, for a positive one; zero stays. -/
def previous (x : Binary64) : Rounded :=
  if x.significand = 0 then .finite x
  else if x.significand = 0x10000000000000 ∧ x.exponent ≠ -1074 then
    .ofParts x.negative 0x1fffffffffffff (x.exponent - 1)
  else .ofParts x.negative (x.significand - 1) x.exponent

end Binary64

namespace Rounded

/-- Continues with a finite number; a magnitude that is too large stays too large. -/
def bind (r : Rounded) (f : Binary64 → Rounded) : Rounded :=
  match r with
  | .finite x => f x
  | .infinite negative => .infinite negative

def isFinite : Rounded → Bool
  | .finite _ => true
  | .infinite _ => false

def le (r : Rounded) (y : Binary64) : Bool :=
  match r with
  | .finite x => x.le y
  | .infinite negative => negative

end Rounded

/-- `x` to `places` decimal places: scaled up, rounded half away from zero and scaled down, each
step in binary64. -/
def Binary64.roundPlaces (x : Binary64) (places : Nat) : Rounded :=
  (Binary64.ofNat (Nat.pow 10 places)).bind fun factor =>
    (x.mul factor).bind fun scaled =>
      scaled.roundHalfAway.bind fun whole => whole.div factor

end MockData
