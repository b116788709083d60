import MockData.Numeric.Binary64

/-!
# Decimal text of binary64 numbers

`Shortest.ofMagnitude` finds the fewest decimal digits that still round to a number: for 1, 2, … 17
digits it looks at the two neighbours of the exact value on the grid of that many digits, and the
first grid with a neighbour that rounds back gives the digits. Of two such neighbours the nearer one
is taken, and the even one at the same distance. `FloatStyle` says where positional notation ends.
`fixedText` writes a given number of decimal places.
-/

namespace MockData

/-- Digits `d₁d₂…` of the value `d₁.d₂… * 10 ^ exponent`. -/
structure Shortest where
  digits : List Char
  exponent : Int

namespace Shortest

def reaches (n d : Nat) (e : Int) : Bool :=
  decide (d * Nat.pow 10 e.toNat ≤ n * Nat.pow 10 (-e).toNat)

/-- The exponent of the first decimal digit of `n / d`, both positive. -/
def leadingExponent (n d : Nat) : Int :=
  let guess : Int := Int.fdiv (((n.log2 : Int) - d.log2) * 1233) 4096
  if reaches n d (guess + 1) then guess + 1
  else if reaches n d guess then guess
  else guess - 1

/-- The numbers that round to `significand * 2 ^ exponent`, counted in a quarter of its last place.
The place below a power of two is half as wide. The ends belong to an even significand. -/
structure Interval where
  low : Nat
  value : Nat
  high : Nat
  closed : Bool

def intervalOf (x : Binary64) : Interval :=
  let m := x.significand
  { low := if m = 0x10000000000000 ∧ x.exponent ≠ -1074 then 4 * m - 1 else 4 * m - 2
    value := 4 * m
    high := 4 * m + 2
    closed := m % 2 == 0 }

def Interval.contains (i : Interval) (n d : Nat) : Bool :=
  if i.closed then decide (i.low * d ≤ n) && decide (n ≤ i.high * d)
  else decide (i.low * d < n) && decide (n < i.high * d)

/-- The multiple of `d / n` that rounds to the value and is nearest to it, if its lower or upper
neighbour does. -/
def neighbour (i : Interval) (n d : Nat) : Option Nat :=
  let below := i.value * n / d
  let above := below + 1
  let lowHit := i.contains (below * d) n
  let highHit := i.contains (above * d) n
  let toLow := i.value * n - below * d
  let toHigh := above * d - i.value * n
  if lowHit && highHit then
    some (if toLow < toHigh then below else if toHigh < toLow then above
      else if below % 2 = 0 then below else above)
  else if lowHit then some below
  else if highHit then some above
  else none

/-- The grid of `count` digits has spacing `10 ^ (leading + 1 - count)`. -/
def onGrid (x : Binary64) (leading : Int) (count : Nat) : Option Shortest :=
  let spacing := leading + 1 - count
  let quarter := x.exponent - 2
  let n := Nat.pow 10 (-spacing).toNat <<< quarter.toNat
  let d := Nat.pow 10 spacing.toNat <<< (-quarter).toNat
  (neighbour (intervalOf x) n d).map fun c =>
    if c = Nat.pow 10 count then ⟨['1'], leading + 1⟩ else ⟨Nat.toDigits 10 c, leading⟩

/-- The first grid of at most 17 digits with a hit, from `count` digits on. -/
def search (x : Binary64) (leading : Int) : (left count : Nat) → Shortest
  | 0, _ => ⟨['0'], 0⟩
  | left + 1, count => (onGrid x leading count).getD (search x leading left (count + 1))

def ofMagnitude (x : Binary64) : Shortest :=
  if x.significand = 0 then ⟨['0'], 0⟩
  else search x (leadingExponent x.magnitude Binary64.unitsPerOne) 17 1

end Shortest

/-- How a shortest decimal is laid out: which exponents of the first digit are written
positionally. -/
structure FloatStyle where
  positional : Int → Bool

namespace FloatStyle

/-- JSON text is positional from five zeros after the point up to sixteen digits before it. -/
def json : FloatStyle := ⟨fun e => decide (-5 ≤ e) && decide (e < 16)⟩

/-- Messages never use an exponent. -/
def plain : FloatStyle := ⟨fun _ => true⟩

/-- A positional decimal has a digit on both sides of the point. -/
def positionalText (s : Shortest) : String :=
  if 0 ≤ s.exponent then
    let whole := s.exponent.toNat + 1
    let padded := s.digits ++ List.replicate (whole - s.digits.length) '0'
    let fraction := padded.drop whole
    String.ofList (padded.take whole ++ '.' :: (if fraction.isEmpty then ['0'] else fraction))
  else
    String.ofList
      ('0' :: '.' :: (List.replicate ((-s.exponent).toNat - 1) '0' ++ s.digits))

/-- A decimal with exponent has its point after the first digit, if there is a second. -/
def scientificText (s : Shortest) : String :=
  let point :=
    match s.digits with
    | d :: e :: rest => String.ofList (d :: '.' :: e :: rest)
    | digits => String.ofList digits
  point ++ "e" ++ (if 0 ≤ s.exponent then "+" else "-") ++ toString s.exponent.natAbs

def magnitudeText (style : FloatStyle) (x : Binary64) : String :=
  let s := Shortest.ofMagnitude x
  if style.positional s.exponent then positionalText s else scientificText s

def text (style : FloatStyle) (x : Binary64) : String :=
  (if x.negative then "-" else "") ++ style.magnitudeText x

end FloatStyle

/-- The exact value to `places` decimal places, a half to the even digit. The sign of zero shows. -/
def Binary64.fixedText (x : Binary64) (places : Nat) : String :=
  let scaled := divNearestEven (x.magnitude * Nat.pow 10 places) unitsPerOne
  let digits := Nat.toDigits 10 scaled
  let padded := List.replicate (places + 1 - digits.length) '0' ++ digits
  let whole := padded.take (padded.length - places)
  let fraction := padded.drop (padded.length - places)
  (if x.negative then "-" else "") ++ String.ofList whole ++
    (if places = 0 then "" else "." ++ String.ofList fraction)

def Rounded.fixedText (r : Rounded) (places : Nat) : String :=
  match r with
  | .finite x => x.fixedText places
  | .infinite negative => if negative then "-inf" else "inf"

end MockData
