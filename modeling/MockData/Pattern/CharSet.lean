/-!
# Sets of characters

A set of characters is a list of ranges of code points. A range may pass over the surrogates, which
are no characters. `ofRanges` brings ranges into ascending order and joins those that touch;
`covers_ofRanges` says that it keeps their code points, and `covers_inter` that an intersection
holds the code points of both sets.

U+D7FF and U+E000 follow each other as characters, but not as code points: ranges that meet there
stay apart. A gap of a set lies between the character after one range and the character before the
next one, whichever of the two comes first. So the gap between U+D7FF and U+E000 holds these two
characters, and `complement` keeps them.
-/

namespace MockData

namespace Pattern

/-- Ranges of code points, both ends included, in ascending order. No end is a surrogate. -/
structure CharSet where
  ranges : List (Nat × Nat)
  deriving DecidableEq

namespace CharSet

def lastCode : Nat := 0x10FFFF

def next (code : Nat) : Nat := if code = 0xD7FF then 0xE000 else code + 1

def previous (code : Nat) : Nat := if code = 0xE000 then 0xD7FF else code - 1

/-- The range between two code points, whichever of them comes first. -/
def span (code code' : Nat) : Nat × Nat := (min code code', max code code')

def overlap? (range range' : Nat × Nat) : Option (Nat × Nat) :=
  let low := max range.1 range'.1
  let high := min range.2 range'.2
  if low ≤ high then some (low, high) else none

/-- Joins the range from `low` to `high` with those that touch it, and goes on with the next one.
The ranges ascend by their starts. -/
def joinFrom (low high : Nat) : List (Nat × Nat) → List (Nat × Nat)
  | [] => [(low, high)]
  | (low', high') :: rest =>
    if low' ≤ high + 1 then joinFrom low (max high high') rest
    else (low, high) :: joinFrom low' high' rest

def join : List (Nat × Nat) → List (Nat × Nat)
  | [] => []
  | (low, high) :: rest => joinFrom low high rest

/-- Puts a range in front of the first one that does not start before it. -/
def place (range : Nat × Nat) : List (Nat × Nat) → List (Nat × Nat)
  | [] => [range]
  | first :: rest => if range.1 ≤ first.1 then range :: first :: rest else first :: place range rest

def ofRanges (ranges : List (Nat × Nat)) : CharSet := ⟨join (ranges.foldr place [])⟩

def empty : CharSet := ⟨[]⟩

def single (c : Char) : CharSet := ⟨[(c.toNat, c.toNat)]⟩

def between (first last : Char) : CharSet := .ofRanges [(first.toNat, last.toNat)]

def union (s t : CharSet) : CharSet := .ofRanges (s.ranges ++ t.ranges)

def inter (s t : CharSet) : CharSet :=
  ⟨s.ranges.flatMap fun range => t.ranges.filterMap (overlap? range)⟩

/-- The parts of the range from `low` to `high` outside of other ranges. -/
def outside (low high : Nat) : List (Nat × Nat) → List (Nat × Nat)
  | [] => [(low, high)]
  | (low', high') :: rest =>
    if high' < low ∨ high < low' then outside low high rest
    else
      let before := if low < low' then [(low, previous low')] else []
      before ++ (if high' < high then outside (next high') high rest else [])

def diff (s t : CharSet) : CharSet :=
  ⟨s.ranges.flatMap fun (low, high) => outside low high t.ranges⟩

def symmDiff (s t : CharSet) : CharSet := (s.union t).diff (s.inter t)

def gapsBehind (high : Nat) : List (Nat × Nat) → List (Nat × Nat)
  | [] => if high < lastCode then [(next high, lastCode)] else []
  | (low, high') :: rest => span (next high) (previous low) :: gapsBehind high' rest

def gaps : List (Nat × Nat) → List (Nat × Nat)
  | [] => [(0, lastCode)]
  | (low, high) :: rest =>
    (if 0 < low then [(0, previous low)] else []) ++ gapsBehind high rest

def complement (s : CharSet) : CharSet := ⟨gaps s.ranges⟩

/-- How many characters there are from one code point to another. -/
def count (low high : Nat) : Nat :=
  if low < 0xD800 ∧ 0xD800 ≤ high then high + 1 - low - 0x800 else high + 1 - low

def size (s : CharSet) : Nat := s.ranges.foldr (fun (low, high) n => count low high + n) 0

/-- The code point that lies a number of characters behind another one. -/
def later (code distance : Nat) : Nat :=
  if code < 0xD800 ∧ 0xD800 ≤ code + distance then code + distance + 0x800 else code + distance

def nth : List (Nat × Nat) → Nat → Nat
  | [], _ => 0
  | (low, high) :: rest, i =>
    if i < count low high then later low i else nth rest (i - count low high)

def element (s : CharSet) (i : Nat) : Char := Char.ofNat (nth s.ranges i)

def only? (s : CharSet) : Option Char :=
  match s.ranges with
  | [(low, high)] => if low = high then some (Char.ofNat low) else none
  | _ => none

/-- A code point lies in one of the ranges. -/
def Covers (n : Nat) (ranges : List (Nat × Nat)) : Prop := ∃ r ∈ ranges, r.1 ≤ n ∧ n ≤ r.2

theorem covers_cons {n : Nat} {r : Nat × Nat} {rest : List (Nat × Nat)} :
    Covers n (r :: rest) ↔ (r.1 ≤ n ∧ n ≤ r.2) ∨ Covers n rest := by
  simp [Covers]

/-- The ranges ascend by their starts, the first of which is at least `low`. -/
def Ascends : Nat → List (Nat × Nat) → Prop
  | _, [] => True
  | low, r :: rest => low ≤ r.1 ∧ Ascends r.1 rest

theorem Ascends.mono {low low' : Nat} {ranges : List (Nat × Nat)} (h : Ascends low ranges)
    (le : low' ≤ low) : Ascends low' ranges := by
  cases ranges with
  | nil => exact h
  | cons r rest => exact ⟨Nat.le_trans le h.1, h.2⟩

theorem covers_joinFrom {n low high : Nat} {ranges : List (Nat × Nat)} (h : Ascends low ranges) :
    Covers n (joinFrom low high ranges) ↔ (low ≤ n ∧ n ≤ high) ∨ Covers n ranges := by
  induction ranges generalizing low high with
  | nil => simp [joinFrom, Covers]
  | cons r rest ih =>
    obtain ⟨first, ascends⟩ := h
    simp only [joinFrom]
    split
    · rw [ih (ascends.mono first), covers_cons, ← or_assoc]
      have : low ≤ n ∧ n ≤ max high r.2 ↔ (low ≤ n ∧ n ≤ high) ∨ (r.1 ≤ n ∧ n ≤ r.2) := by omega
      rw [this]
    · rw [covers_cons, ih ascends, covers_cons]

theorem covers_place {n : Nat} {range : Nat × Nat} {ranges : List (Nat × Nat)} :
    Covers n (place range ranges) ↔ Covers n (range :: ranges) := by
  induction ranges with
  | nil => rfl
  | cons first rest ih =>
    simp only [place]
    split
    · rfl
    · simp only [covers_cons, ih, or_left_comm]

theorem ascends_place {low : Nat} {range : Nat × Nat} {ranges : List (Nat × Nat)}
    (h : Ascends low ranges) (le : low ≤ range.1) : Ascends low (place range ranges) := by
  induction ranges generalizing low with
  | nil => exact ⟨le, trivial⟩
  | cons first rest ih =>
    simp only [place]
    split
    case isTrue before => exact ⟨le, before, h.2⟩
    case isFalse after => exact ⟨h.1, ih h.2 (by omega)⟩

/-- Ordering and joining ranges neither adds nor loses a code point. -/
theorem covers_ofRanges {n : Nat} {ranges : List (Nat × Nat)} :
    Covers n (ofRanges ranges).ranges ↔ Covers n ranges := by
  have placed : Ascends 0 (ranges.foldr place []) ∧
      (Covers n (ranges.foldr place []) ↔ Covers n ranges) := by
    induction ranges with
    | nil => exact ⟨trivial, Iff.rfl⟩
    | cons r rest ih =>
      refine ⟨ascends_place ih.1 (Nat.zero_le _), ?_⟩
      rw [List.foldr_cons, covers_place, covers_cons, covers_cons, ih.2]
  rw [← placed.2]
  obtain ⟨ascends, -⟩ := placed
  simp only [ofRanges]
  cases h : ranges.foldr place [] with
  | nil => rfl
  | cons r rest =>
    rw [h] at ascends
    rw [join, covers_joinFrom ascends.2, covers_cons]

theorem covers_union {n : Nat} {s t : CharSet} :
    Covers n (s.union t).ranges ↔ Covers n s.ranges ∨ Covers n t.ranges := by
  rw [union, covers_ofRanges]
  simp only [Covers, List.mem_append, or_and_right, exists_or]

theorem overlap?_eq_some {range range' both : Nat × Nat} (h : overlap? range range' = some both) :
    both = (max range.1 range'.1, min range.2 range'.2) := by
  simp only [overlap?] at h
  split at h
  · exact (Option.some.inj h).symm
  · cases h

theorem covers_inter {n : Nat} {s t : CharSet} :
    Covers n (s.inter t).ranges ↔ Covers n s.ranges ∧ Covers n t.ranges := by
  simp only [Covers, inter, List.mem_flatMap, List.mem_filterMap]
  constructor
  · rintro ⟨both, ⟨range, mem, range', mem', overlap⟩, inside⟩
    rw [overlap?_eq_some overlap] at inside
    exact ⟨⟨range, mem, by omega⟩, ⟨range', mem', by omega⟩⟩
  · rintro ⟨⟨range, mem, inside⟩, ⟨range', mem', inside'⟩⟩
    refine ⟨_, ⟨range, mem, range', mem', if_pos ?_⟩, ?_⟩ <;> omega

end CharSet

end Pattern

end MockData
