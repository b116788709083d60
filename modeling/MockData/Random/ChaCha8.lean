import MockData.Random.Draw

/-!
# The ChaCha8 source

The words of the ChaCha stream with eight rounds, in order, from the first block on. A seed of 64
bits is stretched to the eight words of the key by a permuted congruential generator.
-/

namespace MockData

/-- The key, the number of the next block, and what is left of the block before it. -/
structure ChaCha8 where
  key : Vector UInt32 8
  block : UInt64
  pending : List UInt32

namespace ChaCha8

abbrev Words := Vector UInt32 16

def rotateLeft (x : UInt32) (n : UInt32) : UInt32 := (x <<< n) ||| (x >>> (32 - n))

def quarterRound (s : Words) (a b c d : Fin 16) : Words :=
  let s := s.set a (s[a] + s[b])
  let s := s.set d (rotateLeft (s[d] ^^^ s[a]) 16)
  let s := s.set c (s[c] + s[d])
  let s := s.set b (rotateLeft (s[b] ^^^ s[c]) 12)
  let s := s.set a (s[a] + s[b])
  let s := s.set d (rotateLeft (s[d] ^^^ s[a]) 8)
  let s := s.set c (s[c] + s[d])
  s.set b (rotateLeft (s[b] ^^^ s[c]) 7)

/-- A round over the columns and a round over the diagonals. -/
def doubleRound (s : Words) : Words :=
  let s := quarterRound s 0 4 8 12
  let s := quarterRound s 1 5 9 13
  let s := quarterRound s 2 6 10 14
  let s := quarterRound s 3 7 11 15
  let s := quarterRound s 0 5 10 15
  let s := quarterRound s 1 6 11 12
  let s := quarterRound s 2 7 8 13
  quarterRound s 3 4 9 14

/-- Four constant words, the key, the number of the block, and two zero words. -/
def input (key : Vector UInt32 8) (block : UInt64) : Words :=
  #v[0x61707865, 0x3320646e, 0x79622d32, 0x6b206574,
    key.get 0, key.get 1, key.get 2, key.get 3, key.get 4, key.get 5, key.get 6, key.get 7,
    block.toUInt32, (block >>> 32).toUInt32, 0, 0]

def blockWords (key : Vector UInt32 8) (block : UInt64) : List UInt32 :=
  let start := input key block
  let mixed := doubleRound (doubleRound (doubleRound (doubleRound start)))
  (start.zipWith (· + ·) mixed).toList

def rotateRight (x : UInt32) (n : UInt32) : UInt32 := (x >>> n) ||| (x <<< ((32 - n) % 32))

def seedStep (s : UInt64) : UInt64 := s * 6364136223846793005 + 11634580027462260723

/-- The word of the key that a state of the seed generator gives. -/
def seedWord (s : UInt64) : UInt32 :=
  rotateRight (((s >>> 18) ^^^ s) >>> 27).toUInt32 (s >>> 59).toUInt32

def ofSeed (seed : UInt64) : ChaCha8 :=
  let s0 := seedStep seed
  let s1 := seedStep s0
  let s2 := seedStep s1
  let s3 := seedStep s2
  let s4 := seedStep s3
  let s5 := seedStep s4
  let s6 := seedStep s5
  let s7 := seedStep s6
  { key := #v[seedWord s0, seedWord s1, seedWord s2, seedWord s3,
      seedWord s4, seedWord s5, seedWord s6, seedWord s7]
    block := 0
    pending := [] }

def next (s : ChaCha8) : UInt32 × ChaCha8 :=
  match s.pending with
  | w :: rest => (w, { s with pending := rest })
  | [] =>
    match blockWords s.key s.block with
    | w :: rest => (w, { s with block := s.block + 1, pending := rest })
    | [] => (0, s)

def takeWords : Nat → ChaCha8 → List UInt32 × ChaCha8
  | 0, s => ([], s)
  | n + 1, s =>
    let (w, s) := s.next
    let (ws, s) := takeWords n s
    (w :: ws, s)

def wordBytes (w : UInt32) : List UInt8 :=
  [w.toUInt8, (w >>> 8).toUInt8, (w >>> 16).toUInt8, (w >>> 24).toUInt8]

/-- A word of 64 bits is two words of the stream, the low one first. -/
instance : RandomSource ChaCha8 where
  next32 s := s.next
  next64 s :=
    let (low, s) := s.next
    let (high, s) := s.next
    (low.toUInt64 ||| (high.toUInt64 <<< 32), s)
  bytes n s :=
    let (ws, s) := takeWords ((n + 3) / 4) s
    ((ws.flatMap wordBytes).take n, s)

end ChaCha8

end MockData
