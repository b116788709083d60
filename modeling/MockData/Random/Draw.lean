import MockData.Numeric.Binary64

/-!
# Random sources and bounded draws

A random source is a state with three steps: a word of 32 bits, a word of 64 bits, and a number of
bytes. `Script` is the source that reads a given stream of words.

`Draw.below n` takes one word and scales it to a number below `n` by a widening multiplication. When
the low half of the product is close to the top, a second word decides whether it carries. Every
number below `n` is the answer to some word. `Draw.belowExact` is the other way to scale: it draws
again until the low half of the product is large enough, so that no number is favoured.
-/

namespace MockData

class RandomSource (σ : Type) where
  next32 : σ → UInt32 × σ
  next64 : σ → UInt64 × σ
  bytes : Nat → σ → List UInt8 × σ

abbrev Draw (σ : Type) := StateM σ

/-- A stream of words and the place of the next one. -/
structure Script where
  word : Nat → UInt64
  position : Nat

namespace Script

def wordBytes (w : UInt64) : List UInt8 :=
  (List.range 8).map fun i => (w >>> (8 * i).toUInt64).toUInt8

/-- The words that hold `n` bytes, one word for every eight. -/
def takeBytes (s : Script) (n : Nat) : List UInt8 × Script :=
  let count := (n + 7) / 8
  let words := (List.range count).map fun i => s.word (s.position + i)
  ((words.flatMap wordBytes).take n, { s with position := s.position + count })

/-- A word of 32 bits is the low half of the next word. -/
instance : RandomSource Script where
  next32 s := ((s.word s.position).toUInt32, { s with position := s.position + 1 })
  next64 s := (s.word s.position, { s with position := s.position + 1 })
  bytes n s := s.takeBytes n

/-- Repeats a list of words forever, starting with `first :: rest`. -/
def cycle (first : UInt64) (rest : Array UInt64) : Script where
  word i :=
    let k := i % (rest.size + 1)
    if k = 0 then first else rest.getD (k - 1) 0
  position := 0

end Script

namespace Draw

variable {σ : Type} [RandomSource σ]

def word32 : Draw σ Nat := fun s =>
  let (w, s) := RandomSource.next32 s
  (w.toNat, s)

def word64 : Draw σ Nat := fun s =>
  let (w, s) := RandomSource.next64 s
  (w.toNat, s)

def bytes (n : Nat) : Draw σ (List UInt8) := fun s => RandomSource.bytes n s

/-- What the first word gives: the number, and whether a second word may raise it. -/
def scaleWord (modulus n word : Nat) : Nat × Bool :=
  let product := word * n
  (product / modulus, decide (modulus - n < product % modulus))

/-- The low half of the first product and the high half of the second carry over. -/
def carries (modulus n word second : Nat) : Bool :=
  decide (modulus ≤ word * n % modulus + second * n / modulus)

/-- A number below `n`, which is at most `modulus`, from words below `modulus`. -/
def belowWith (modulus : Nat) (word : Draw σ Nat) (n : Nat) : Draw σ Nat := do
  let first ← word
  if n = modulus then return first
  else
    let (r, close) := scaleWord modulus n first
    if close then
      let second ← word
      return if carries modulus n first second then r + 1 else r
    else return r

/-- A number below `n ≤ 2 ^ 32`, from words of 32 bits. -/
def below32 (n : Nat) : Draw σ Nat := belowWith 0x100000000 word32 n

/-- A number below `n ≤ 2 ^ 64`, from words of 64 bits. -/
def below64 (n : Nat) : Draw σ Nat := belowWith 0x10000000000000000 word64 n

def index (n : Nat) : Draw σ Nat := if n ≤ 0x100000000 then below32 n else below64 n

/-- A number between the bounds, both included, for `min ≤ max`. -/
def between64 (min max : Nat) : Draw σ Nat := do
  return min + (← below64 (max - min + 1))

/-- How often `belowExact` draws again before it takes what it has. -/
def patience : Nat := 100000

/-- Draws until the low half of the product reaches `threshold`. -/
def scaleUntil (n threshold : Nat) : Nat → Draw σ Nat
  | 0 => do return ((← word32) * n) >>> 32
  | left + 1 => do
    let product := (← word32) * n
    if threshold ≤ product % 0x100000000 then return product >>> 32
    else scaleUntil n threshold left

/-- A number below `n ≤ 2 ^ 32`, no number more often than another. -/
def belowExact (n : Nat) : Draw σ Nat := scaleUntil n (0x100000000 % n) patience

/-- The event of probability `p`, decided by the upper 53 bits of a word. -/
def chance (p : Binary64) : Draw σ Bool := do
  let w ← word64
  return decide ((((w >>> 11) <<< 1021 : Nat) : Int) < p.units)

/-- The event of probability `p`, decided by a whole word; nothing is drawn for a certain event. -/
def event (p : Binary64) : Draw σ Bool := do
  if Binary64.unitsPerOne ≤ p.magnitude then return true
  else return decide ((← word64) < p.magnitude >>> 1010)

/-- A fraction in steps of `2 ^ -52`, below one. -/
def fraction : Draw σ Rounded := do
  return Binary64.round false ((← word64) >>> 12) 0x10000000000000

def replicate {α : Type} (n : Nat) (d : Draw σ α) : Draw σ (List α) := loop n []
where
  loop : Nat → List α → Draw σ (List α)
    | 0, done => return done.reverse
    | left + 1, done => do loop left ((← d) :: done)

end Draw

end MockData
