import MockData.Pattern.CharSet

/-!
# Letters that differ only in case

The letters of all scripts that have two cases, by version 16 of the character standard. Letters
belong together if they have the same small letter; letters that become several small letters are
left alone. `CharSet.fold` adds to every letter of a set those that differ from it only in case.
-/

namespace MockData

namespace Pattern

namespace Fold

/-- Capitals from `first` to `last` whose small letters lie `distance` code points higher. -/
structure Alphabet where
  first : Nat
  last : Nat
  distance : Nat

def ascii : Alphabet := ⟨0x41, 0x5A, 0x20⟩

def alphabets : List Alphabet :=
  [ascii, ⟨0xC0, 0xD6, 0x20⟩, ⟨0xD8, 0xDE, 0x20⟩, ⟨0x189, 0x18A, 0xCD⟩, ⟨0x1B1, 0x1B2, 0xD9⟩,
   ⟨0x23F, 0x240, 0x2A3F⟩, ⟨0x37B, 0x37D, 0x82⟩, ⟨0x388, 0x38A, 0x25⟩, ⟨0x38E, 0x38F, 0x3F⟩,
   ⟨0x391, 0x39F, 0x20⟩, ⟨0x3A4, 0x3AB, 0x20⟩, ⟨0x400, 0x40F, 0x50⟩, ⟨0x410, 0x42F, 0x20⟩,
   ⟨0x531, 0x556, 0x30⟩, ⟨0x10A0, 0x10C5, 0x1C60⟩, ⟨0x10D0, 0x10FA, 0xBC0⟩,
   ⟨0x10FD, 0x10FF, 0xBC0⟩, ⟨0x13A0, 0x13EF, 0x97D0⟩, ⟨0x13F0, 0x13F5, 0x8⟩, ⟨0x1F00, 0x1F07, 0x8⟩,
   ⟨0x1F10, 0x1F15, 0x8⟩, ⟨0x1F20, 0x1F27, 0x8⟩, ⟨0x1F30, 0x1F37, 0x8⟩, ⟨0x1F40, 0x1F45, 0x8⟩,
   ⟨0x1F60, 0x1F67, 0x8⟩, ⟨0x1F70, 0x1F71, 0x4A⟩, ⟨0x1F72, 0x1F75, 0x56⟩, ⟨0x1F76, 0x1F77, 0x64⟩,
   ⟨0x1F78, 0x1F79, 0x80⟩, ⟨0x1F7A, 0x1F7B, 0x70⟩, ⟨0x1F7C, 0x1F7D, 0x7E⟩, ⟨0x1F80, 0x1F87, 0x8⟩,
   ⟨0x1F90, 0x1F97, 0x8⟩, ⟨0x1FA0, 0x1FA7, 0x8⟩, ⟨0x1FB0, 0x1FB1, 0x8⟩, ⟨0x1FD0, 0x1FD1, 0x8⟩,
   ⟨0x1FE0, 0x1FE1, 0x8⟩, ⟨0x2160, 0x216F, 0x10⟩, ⟨0x24B6, 0x24CF, 0x1A⟩, ⟨0x2C00, 0x2C2F, 0x30⟩,
   ⟨0xFF21, 0xFF3A, 0x20⟩, ⟨0x10400, 0x10427, 0x28⟩, ⟨0x104B0, 0x104D3, 0x28⟩,
   ⟨0x10570, 0x1057A, 0x27⟩, ⟨0x1057C, 0x1058A, 0x27⟩, ⟨0x1058C, 0x10592, 0x27⟩,
   ⟨0x10594, 0x10595, 0x27⟩, ⟨0x10C80, 0x10CB2, 0x40⟩, ⟨0x10D50, 0x10D65, 0x20⟩,
   ⟨0x118A0, 0x118BF, 0x20⟩, ⟨0x16E40, 0x16E5F, 0x20⟩, ⟨0x1E900, 0x1E921, 0x22⟩]

/-- Ranges in which every capital has its small letter right behind it. -/
def couples : List (Nat × Nat) :=
  [(0x100, 0x12F), (0x132, 0x137), (0x139, 0x148), (0x14A, 0x177), (0x179, 0x17E), (0x182, 0x185),
   (0x187, 0x188), (0x18B, 0x18C), (0x191, 0x192), (0x198, 0x199), (0x1A0, 0x1A5), (0x1A7, 0x1A8),
   (0x1AC, 0x1AD), (0x1AF, 0x1B0), (0x1B3, 0x1B6), (0x1B8, 0x1B9), (0x1BC, 0x1BD), (0x1CD, 0x1DC),
   (0x1DE, 0x1EF), (0x1F4, 0x1F5), (0x1F8, 0x21F), (0x222, 0x233), (0x23B, 0x23C), (0x241, 0x242),
   (0x246, 0x24F), (0x370, 0x373), (0x376, 0x377), (0x3D8, 0x3EF), (0x3F7, 0x3F8), (0x3FA, 0x3FB),
   (0x460, 0x481), (0x48A, 0x4BF), (0x4C1, 0x4CE), (0x4D0, 0x52F), (0x1C89, 0x1C8A),
   (0x1E00, 0x1E95), (0x1EA0, 0x1EFF), (0x2183, 0x2184), (0x2C60, 0x2C61), (0x2C67, 0x2C6C),
   (0x2C72, 0x2C73), (0x2C75, 0x2C76), (0x2C80, 0x2CE3), (0x2CEB, 0x2CEE), (0x2CF2, 0x2CF3),
   (0xA640, 0xA66D), (0xA680, 0xA69B), (0xA722, 0xA72F), (0xA732, 0xA76F), (0xA779, 0xA77C),
   (0xA77E, 0xA787), (0xA78B, 0xA78C), (0xA790, 0xA793), (0xA796, 0xA7A9), (0xA7B4, 0xA7C3),
   (0xA7C7, 0xA7CA), (0xA7CC, 0xA7CD), (0xA7D0, 0xA7D1), (0xA7D6, 0xA7DB), (0xA7F5, 0xA7F6),
   (0xFB05, 0xFB06)]

/-- Other letters that are the same apart from case. -/
def groups : List (List Nat) :=
  [[0x4B, 0x6B, 0x212A], [0x53, 0x73, 0x17F], [0xB5, 0x39C, 0x3BC], [0xC5, 0xE5, 0x212B],
   [0xDF, 0x1E9E], [0xFF, 0x178], [0x180, 0x243], [0x181, 0x253], [0x186, 0x254], [0x18E, 0x1DD],
   [0x18F, 0x259], [0x190, 0x25B], [0x193, 0x260], [0x194, 0x263], [0x195, 0x1F6], [0x196, 0x269],
   [0x197, 0x268], [0x19A, 0x23D], [0x19B, 0xA7DC], [0x19C, 0x26F], [0x19D, 0x272], [0x19E, 0x220],
   [0x19F, 0x275], [0x1A6, 0x280], [0x1A9, 0x283], [0x1AE, 0x288], [0x1B7, 0x292], [0x1BF, 0x1F7],
   [0x1C4, 0x1C5, 0x1C6], [0x1C7, 0x1C8, 0x1C9], [0x1CA, 0x1CB, 0x1CC], [0x1F1, 0x1F2, 0x1F3],
   [0x23A, 0x2C65], [0x23E, 0x2C66], [0x244, 0x289], [0x245, 0x28C], [0x250, 0x2C6F],
   [0x251, 0x2C6D], [0x252, 0x2C70], [0x25C, 0xA7AB], [0x261, 0xA7AC], [0x264, 0xA7CB],
   [0x265, 0xA78D], [0x266, 0xA7AA], [0x26A, 0xA7AE], [0x26B, 0x2C62], [0x26C, 0xA7AD],
   [0x271, 0x2C6E], [0x27D, 0x2C64], [0x282, 0xA7C5], [0x287, 0xA7B1], [0x29D, 0xA7B2],
   [0x29E, 0xA7B0], [0x345, 0x399, 0x3B9, 0x1FBE], [0x37F, 0x3F3], [0x386, 0x3AC], [0x38C, 0x3CC],
   [0x390, 0x1FD3], [0x392, 0x3B2, 0x3D0], [0x395, 0x3B5, 0x3F5], [0x398, 0x3B8, 0x3D1, 0x3F4],
   [0x39A, 0x3BA, 0x3F0], [0x3A0, 0x3C0, 0x3D6], [0x3A1, 0x3C1, 0x3F1], [0x3A3, 0x3C2, 0x3C3],
   [0x3A6, 0x3C6, 0x3D5], [0x3A9, 0x3C9, 0x2126], [0x3B0, 0x1FE3], [0x3CF, 0x3D7], [0x3F2, 0x3F9],
   [0x412, 0x432, 0x1C80], [0x414, 0x434, 0x1C81], [0x41E, 0x43E, 0x1C82], [0x421, 0x441, 0x1C83],
   [0x422, 0x442, 0x1C84, 0x1C85], [0x42A, 0x44A, 0x1C86], [0x462, 0x463, 0x1C87], [0x4C0, 0x4CF],
   [0x10C7, 0x2D27], [0x10CD, 0x2D2D], [0x1C88, 0xA64A, 0xA64B], [0x1D79, 0xA77D],
   [0x1D7D, 0x2C63], [0x1D8E, 0xA7C6], [0x1E60, 0x1E61, 0x1E9B], [0x1F51, 0x1F59],
   [0x1F53, 0x1F5B], [0x1F55, 0x1F5D], [0x1F57, 0x1F5F], [0x1FB3, 0x1FBC], [0x1FC3, 0x1FCC],
   [0x1FE5, 0x1FEC], [0x1FF3, 0x1FFC], [0x2132, 0x214E], [0xA794, 0xA7C4], [0xA7B3, 0xAB53]]

/-- The small letters of the capitals in a range and the capitals of its small letters. -/
def otherCase (range : Nat × Nat) (a : Alphabet) : List (Nat × Nat) :=
  let small := (CharSet.overlap? range (a.first, a.last)).map fun (low, high) =>
    (low + a.distance, high + a.distance)
  let capital := (CharSet.overlap? range (a.first + a.distance, a.last + a.distance)).map
    fun (low, high) => (low - a.distance, high - a.distance)
  small.toList ++ capital.toList

def completed (range couples : Nat × Nat) : List (Nat × Nat) :=
  ((CharSet.overlap? range couples).map fun (low, high) =>
    (low - (low - couples.1) % 2, high + (couples.2 - high) % 2)).toList

def sameGroup (range : Nat × Nat) (group : List Nat) : List (Nat × Nat) :=
  if group.any fun c => range.1 ≤ c && c ≤ range.2 then group.map fun c => (c, c) else []

def others (range : Nat × Nat) : List (Nat × Nat) :=
  alphabets.flatMap (otherCase range) ++ couples.flatMap (completed range) ++
    groups.flatMap (sameGroup range)

end Fold

namespace CharSet

/-- Adds the letters that differ only in case. -/
def fold (s : CharSet) : CharSet := s.union (.ofRanges (s.ranges.flatMap Fold.others))

theorem covers_fold {n : Nat} {s : CharSet} (h : Covers n s.ranges) : Covers n s.fold.ranges :=
  covers_union.2 (.inl h)

/-- Adds the letters below U+0080 that differ only in case. -/
def foldAscii (s : CharSet) : CharSet :=
  s.union (.ofRanges (s.ranges.flatMap fun range => Fold.otherCase range Fold.ascii))

end CharSet

end Pattern

end MockData
