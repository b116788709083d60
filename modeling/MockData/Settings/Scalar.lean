import MockData.Settings.Value
import MockData.Text.Basic

/-!
# Lines and scalars of a settings file

Blanks within a line, comments, which start with a number sign, and the ends of lines; then
integers, switches and texts. An integer may be written in base ten, sixteen, eight or two. A text
stands between double quotes, where a backslash starts an escape, or between single quotes, where it
does not; three quotes enclose a text of several lines.
-/

namespace MockData

namespace SettingsFile

/-! ### Lines -/

def isBlank (c : Char) : Bool := c = ' ' || c = '\t'

def skipBlanks (text : List Char) : List Char := text.dropWhile isBlank

/-- A character that may stand in a comment and, unless it ends there, in a text. -/
def isPlain (c : Char) : Bool := c = '\t' || (32 ≤ c.toNat && c.toNat ≠ 127)

def newline? : List Char → Option (List Char)
  | '\n' :: rest => some rest
  | '\r' :: '\n' :: rest => some rest
  | _ => none

def comment? : List Char → Option (List Char)
  | [] => some []
  | c :: rest =>
    match newline? (c :: rest) with
    | some rest => some rest
    | none => if isPlain c then comment? rest else none

/-- The rest after a line on which nothing is left but a comment. -/
def lineEnd? (text : List Char) : Option (List Char) :=
  match skipBlanks text with
  | [] => some []
  | '#' :: rest => comment? rest
  | rest => newline? rest

/-- The rest after blanks, comments and line ends. A comment ends with its line. -/
def skipLoose? : (fuel : Nat) → List Char → Option (List Char)
  | 0, _ => none
  | fuel + 1, text =>
    match skipBlanks text with
    | '#' :: rest => do skipLoose? fuel (← comment? rest)
    | rest =>
      match newline? rest with
      | some rest => skipLoose? fuel rest
      | none => some rest

/-! ### Scalars -/

/-- Digits of a base, a single underscore between some of them. -/
def grouped? (base : Nat) (text : List Char) : Option Nat :=
  let parts := Text.split '_' text
  if parts.any List.isEmpty then none else Text.digitsValue? base parts.flatten

/-- Decimal digits without needless zeros in front. -/
def decimal? : List Char → Option Nat
  | ['0'] => some 0
  | '0' :: _ => none
  | text => grouped? 10 text

/-- A decimal number with or without a sign, or a number in base sixteen, eight or two. -/
def integer? : List Char → Option Int
  | '0' :: 'x' :: text => (grouped? 16 text).map Int.ofNat
  | '0' :: 'o' :: text => (grouped? 8 text).map Int.ofNat
  | '0' :: 'b' :: text => (grouped? 2 text).map Int.ofNat
  | '+' :: text => (decimal? text).map Int.ofNat
  | '-' :: text => (decimal? text).map fun n => -Int.ofNat n
  | text => (decimal? text).map Int.ofNat

/-- An integer or a switch. Integers fit 64 bits with a sign. -/
def word? (text : List Char) : Option SettingValue :=
  if text = "true".toList then some (.switch true)
  else if text = "false".toList then some (.switch false)
  else
    match integer? text with
    | some n => if -0x8000000000000000 ≤ n ∧ n < 0x8000000000000000 then some (.integer n) else none
    | none => none

def codePoint? (width : Nat) (text : List Char) : Option (Char × List Char) := do
  let digits := text.take width
  let n ← Text.digitsValue? 16 digits
  if digits.length = width ∧ n.isValidChar then some (Char.ofNat n, text.drop width) else none

def escape? : List Char → Option (Char × List Char)
  | 'b' :: rest => some ('\x08', rest)
  | 't' :: rest => some ('\t', rest)
  | 'n' :: rest => some ('\n', rest)
  | 'f' :: rest => some ('\x0c', rest)
  | 'r' :: rest => some ('\r', rest)
  | '"' :: rest => some ('"', rest)
  | '\\' :: rest => some ('\\', rest)
  | 'u' :: rest => codePoint? 4 rest
  | 'U' :: rest => codePoint? 8 rest
  | _ => none

/-- The rest of a text after its opening quote. Within double quotes there are escapes. `fuel` is
at least the length of the text. -/
def line? (quote : Char) : (fuel : Nat) → (read : List Char) → List Char →
    Option (String × List Char)
  | 0, _, _ => none
  | _, _, [] => none
  | fuel + 1, read, c :: rest =>
    if c = quote then some (String.ofList read.reverse, rest)
    else if c = '\\' ∧ quote = '"' then do
      let (e, rest) ← escape? rest
      line? quote fuel (e :: read) rest
    else if isPlain c then line? quote fuel (c :: read) rest
    else none

/-- The rest after blanks and line ends. -/
def skipLines : List Char → List Char
  | '\r' :: '\n' :: rest => skipLines rest
  | c :: rest => if isBlank c || c = '\n' then skipLines rest else c :: rest
  | [] => []

/-- The quotes at the start of a text, at most five: the last three of three or more end it, and
those before belong to it. -/
def closing? (quote : Char) (text : List Char) : Option (List Char × List Char) :=
  let quotes := (text.take 5).takeWhile (· = quote)
  if 3 ≤ quotes.length then some (quotes.drop 3, text.drop quotes.length) else none

/-- The rest of a text of several lines. Within double quotes a backslash at the end of a line takes
away the end and the blanks that follow. -/
def block? (quote : Char) : (fuel : Nat) → (read : List Char) → List Char →
    Option (String × List Char)
  | 0, _, _ => none
  | _, _, [] => none
  | fuel + 1, read, c :: rest =>
    match closing? quote (c :: rest) with
    | some (own, rest) => some (String.ofList (read.reverse ++ own), rest)
    | none =>
      match newline? (c :: rest) with
      | some rest => block? quote fuel ('\n' :: read) rest
      | none =>
        if c = '\\' ∧ quote = '"' then
          match newline? (skipBlanks rest) with
          | some rest => block? quote fuel read (skipLines rest)
          | none => do
            let (e, rest) ← escape? rest
            block? quote fuel (e :: read) rest
        else if isPlain c then block? quote fuel (c :: read) rest
        else none

/-- A text from its opening quotes on; three quotes open a text of several lines, which starts on
the next line if nothing else follows them. -/
def quoted? (quote : Char) (text : List Char) : Option (String × List Char) :=
  if (text.take 3).length = 3 ∧ (text.take 3).all (· = quote) then
    let body := text.drop 3
    block? quote (body.length + 1) [] ((newline? body).getD body)
  else line? quote text.length [] text.tail

end SettingsFile

end MockData
