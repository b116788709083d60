/-!
# Characters and texts

What the readers and writers of all formats share: padding, splitting at a separator, white space,
letter case, and the values of digits in bases up to sixteen.
-/

namespace MockData

/-- The decimal digits of `n`, with zeros in front up to `width`. -/
def padded (width n : Nat) : String :=
  let digits := Nat.toDigits 10 n
  String.ofList (List.replicate (width - digits.length) '0' ++ digits)

/-- A text with blanks behind it up to `width` characters. -/
def paddedEnd (width : Nat) (text : String) : String :=
  text ++ String.ofList (List.replicate (width - text.length) ' ')

namespace Text

/-! ### Splitting -/

/-- The parts between the occurrences of a separator. An empty text has one empty part. -/
def split (separator : Char) : List Char → List (List Char)
  | [] => [[]]
  | c :: rest =>
    if c = separator then [] :: split separator rest
    else
      match split separator rest with
      | [] => [[c]]
      | part :: parts => (c :: part) :: parts

theorem split_ne_nil (separator : Char) (text : List Char) : split separator text ≠ [] := by
  cases text with
  | nil => simp [split]
  | cons c rest =>
    simp only [split]
    split
    · simp
    · split <;> simp

def splitString (separator : Char) (text : String) : List String :=
  (split separator text.toList).map String.ofList

/-! ### Blanks -/

/-- White space: the ASCII blanks, the no-break and other fixed-width spaces, and the line and
paragraph separators. -/
def isBlank (c : Char) : Bool :=
  let n := c.toNat
  (9 ≤ n && n ≤ 13) || n == 0x20 || n == 0x85 || n == 0xA0 || n == 0x1680 ||
    (0x2000 ≤ n && n ≤ 0x200A) || n == 0x2028 || n == 0x2029 || n == 0x202F || n == 0x205F ||
    n == 0x3000

def skipBlanks (text : List Char) : List Char := text.dropWhile isBlank

/-! ### Letter case -/

/-- The capitals from U+00C0 to U+00DE; the multiplication sign stands among them. -/
def isLatinCapital (c : Char) : Bool := 'À' ≤ c && c ≤ 'Þ' && c ≠ '×'

/-- Lower case of the letters of the Latin alphabets up to U+00FF. -/
def lower (c : Char) : Char :=
  if c.isUpper || isLatinCapital c then Char.ofNat (c.toNat + 32) else c

def lowerString (s : String) : String := String.ofList (s.toList.map lower)

/-- The first letter in upper case, for text whose first character is an ASCII letter. -/
def capitalize (s : String) : String :=
  match s.toList with
  | [] => ""
  | c :: rest => String.ofList (c.toUpper :: rest)

/-! ### Digits -/

def hexValue? (c : Char) : Option Nat :=
  if c.isDigit then some (c.toNat - '0'.toNat)
  else if 'a' ≤ c ∧ c ≤ 'f' then some (c.toNat - 'a'.toNat + 10)
  else if 'A' ≤ c ∧ c ≤ 'F' then some (c.toNat - 'A'.toNat + 10)
  else none

def digitValue? (base : Nat) (c : Char) : Option Nat :=
  (hexValue? c).bind fun n => if n < base then some n else none

/-- The number that digits of a base stand for, after those that stand for `high`. -/
def digitsValueFrom? (base high : Nat) : List Char → Option Nat
  | [] => some high
  | c :: rest => do digitsValueFrom? base (base * high + (← digitValue? base c)) rest

/-- The number that one or more digits stand for. -/
def digitsValue? (base : Nat) (digits : List Char) : Option Nat :=
  if digits = [] then none else digitsValueFrom? base 0 digits

end Text

end MockData
