import MockData.Pattern.CharSet
import MockData.Text.Category

/-!
# Named sets of characters

The sets that a pattern can name: digits, blanks and word characters, below U+0080 or of all
scripts, and the sets between `[:` and `:]`, which never leave ASCII. Those of all scripts follow
version 16 of the character standard.
-/

namespace MockData

namespace Pattern

namespace CharSet

def ofChars (ranges : List (Char × Char)) : CharSet :=
  .ofRanges (ranges.map fun (first, last) => (first.toNat, last.toNat))

def asciiDigits : CharSet := .ofChars [('0', '9')]

def asciiBlanks : CharSet := .ofChars [('\t', '\r'), (' ', ' ')]

def asciiWord : CharSet := .ofChars [('0', '9'), ('A', 'Z'), ('a', 'z'), ('_', '_')]

/-- A set named between colons. -/
def posix? (name : String) : Option CharSet :=
  if name = "alnum" then some (.ofChars [('0', '9'), ('A', 'Z'), ('a', 'z')])
  else if name = "alpha" then some (.ofChars [('A', 'Z'), ('a', 'z')])
  else if name = "ascii" then some (.ofChars [('\x00', '\x7f')])
  else if name = "blank" then some (.ofChars [('\t', '\t'), (' ', ' ')])
  else if name = "cntrl" then some (.ofChars [('\x00', '\x1f'), ('\x7f', '\x7f')])
  else if name = "digit" then some asciiDigits
  else if name = "graph" then some (.ofChars [('!', '~')])
  else if name = "lower" then some (.ofChars [('a', 'z')])
  else if name = "print" then some (.ofChars [(' ', '~')])
  else if name = "punct" then
    some (.ofChars [('!', '/'), (':', '@'), ('[', '\x60'), ('{', '~')])
  else if name = "space" then some asciiBlanks
  else if name = "upper" then some (.ofChars [('A', 'Z')])
  else if name = "word" then some asciiWord
  else if name = "xdigit" then some (.ofChars [('0', '9'), ('A', 'F'), ('a', 'f')])
  else none

/-- The zeros of the decimal digits of all scripts; the nine other digits follow each of them. -/
def zeros : List Nat :=
  [0x30, 0x660, 0x6F0, 0x7C0, 0x966, 0x9E6, 0xA66, 0xAE6, 0xB66, 0xBE6, 0xC66, 0xCE6, 0xD66, 0xDE6,
   0xE50, 0xED0, 0xF20, 0x1040, 0x1090, 0x17E0, 0x1810, 0x1946, 0x19D0, 0x1A80, 0x1A90, 0x1B50,
   0x1BB0, 0x1C40, 0x1C50, 0xA620, 0xA8D0, 0xA900, 0xA9D0, 0xA9F0, 0xAA50, 0xABF0, 0xFF10, 0x104A0,
   0x10D30, 0x10D40, 0x11066, 0x110F0, 0x11136, 0x111D0, 0x112F0, 0x11450, 0x114D0, 0x11650,
   0x116C0, 0x116D0, 0x116DA, 0x11730, 0x118E0, 0x11950, 0x11BF0, 0x11C50, 0x11D50, 0x11DA0,
   0x11F50, 0x16130, 0x16A60, 0x16AC0, 0x16B50, 0x16D70, 0x1CCF0, 0x1D7CE, 0x1D7D8, 0x1D7E2,
   0x1D7EC, 0x1D7F6, 0x1E140, 0x1E2F0, 0x1E4F0, 0x1E5F1, 0x1E950, 0x1FBF0]

def digits : CharSet := .ofRanges (zeros.map fun code => (code, code + 9))

def blanks : CharSet :=
  .ofRanges [(9, 13), (0x20, 0x20), (0x85, 0x85), (0xA0, 0xA0), (0x1680, 0x1680),
    (0x2000, 0x200A), (0x2028, 0x2029), (0x202F, 0x202F), (0x205F, 0x205F), (0x3000, 0x3000)]

/-- Marks that connect words, such as the underscore. -/
def connectors : List (Nat × Nat) :=
  [(0x5F, 0x5F), (0x203F, 0x2040), (0x2054, 0x2054), (0xFE33, 0xFE34), (0xFE4D, 0xFE4F),
   (0xFF3F, 0xFF3F)]

def joiners : List (Nat × Nat) := [(0x200C, 0x200D)]

/-- Letters, marks and digits that version 17 of the character standard has added. -/
def newest : CharSet :=
  .ofRanges
    [(0x88F, 0x88F), (0xC5C, 0xC5C), (0xCDC, 0xCDC), (0x1ACF, 0x1ADD), (0x1AE0, 0x1AEB),
     (0xA7CE, 0xA7CF), (0xA7D2, 0xA7D2), (0xA7D4, 0xA7D4), (0xA7F1, 0xA7F1), (0x10940, 0x10959),
     (0x10EC5, 0x10EC7), (0x10EFA, 0x10EFB), (0x11B60, 0x11B67), (0x11DB0, 0x11DDB),
     (0x11DE0, 0x11DE9), (0x16EA0, 0x16EB8), (0x16EBB, 0x16ED3), (0x16FF2, 0x16FF6),
     (0x187F8, 0x187FF), (0x18D09, 0x18D1E), (0x18D80, 0x18DF2), (0x1E6C0, 0x1E6DE),
     (0x1E6E0, 0x1E6F5), (0x1E6FE, 0x1E6FF), (0x2B73A, 0x2B73F), (0x2CEA2, 0x2CEAD),
     (0x323B0, 0x33479)]

/-- Letters, marks, digits and what holds words together, by version 16 of the standard. -/
def word : CharSet :=
  (digits.union (.ofRanges (Text.letters ++ Text.nonspacing ++ Text.spacing ++ connectors ++
    joiners))).diff newest

end CharSet

end Pattern

end MockData
