import MockData.Json.Numeral
import MockData.Text.Basic

/-!
# Reading JSON

`Json.parse` reads one value that fills the text. Arrays and objects nest at most 127 deep. A
repeated key keeps its first place and takes its last value.
-/

namespace MockData

namespace Json

namespace Parser

/-- How many arrays and objects may stand inside one another. -/
def maxNesting : Nat := 127

def isBlank (c : Char) : Bool := c = ' ' || c = '\n' || c = '\t' || c = '\r'

def skipBlanks (text : List Char) : List Char := text.dropWhile isBlank

/-- The four digits of an escaped code unit. Fewer than four bytes are left at the end of the
text. -/
def codeUnit (text : List Char) : Except JsonFault (Nat × List Char) :=
  match text with
  | a :: b :: c :: d :: rest =>
    match Text.hexValue? a, Text.hexValue? b, Text.hexValue? c, Text.hexValue? d with
    | some a, some b, some c, some d => .ok (a * 4096 + b * 256 + c * 16 + d, rest)
    | _, _, _, _ => .error .misplaced
  | _ =>
    if (text.foldr (fun c n => c.utf8Size + n) 0) < 4 then .error .endOfText else .error .misplaced

/-- The character after the `u` of an escape. A code unit from the first half of a pair needs one
from the second half. -/
def unicodeEscape (text : List Char) : Except JsonFault (Char × List Char) := do
  let (unit, rest) ← codeUnit text
  if 0xDC00 ≤ unit ∧ unit ≤ 0xDFFF then .error .misplaced
  else if 0xD800 ≤ unit ∧ unit ≤ 0xDBFF then
    match rest with
    | '\\' :: 'u' :: rest =>
      let (second, rest) ← codeUnit rest
      if 0xDC00 ≤ second ∧ second ≤ 0xDFFF then
        return (Char.ofNat (0x10000 + (unit - 0xD800) * 1024 + (second - 0xDC00)), rest)
      else .error .misplaced
    | ['\\'] | [] => .error .endOfText
    | _ => .error .misplaced
  else return (Char.ofNat unit, rest)

def shortEscape? (c : Char) : Option Char :=
  if c = '"' then some '"'
  else if c = '\\' then some '\\'
  else if c = '/' then some '/'
  else if c = 'b' then some '\x08'
  else if c = 'f' then some '\x0c'
  else if c = 'n' then some '\n'
  else if c = 'r' then some '\r'
  else if c = 't' then some '\t'
  else none

/-- The rest of a string after its opening quote. `fuel` is at least the length of the text. -/
def stringBody : (fuel : Nat) → (read : List Char) → List Char →
    Except JsonFault (String × List Char)
  | 0, _, _ => .error .misplaced
  | fuel + 1, read, text =>
    match text with
    | [] => .error .endOfText
    | '"' :: rest => .ok (String.ofList read.reverse, rest)
    | '\\' :: rest =>
      match rest with
      | [] => .error .endOfText
      | 'u' :: rest => do
        let (c, rest) ← unicodeEscape rest
        stringBody fuel (c :: read) rest
      | c :: rest =>
        match shortEscape? c with
        | some e => stringBody fuel (e :: read) rest
        | none => .error .misplaced
    | c :: rest => if c.toNat < 32 then .error .misplaced else stringBody fuel (c :: read) rest

def quoted (text : List Char) : Except JsonFault (String × List Char) :=
  stringBody (text.length + 1) [] text

/-- The rest of a word such as `null` after its first letter. -/
def word (value : Json) : (expected : List Char) → List Char →
    Except JsonFault (Json × List Char)
  | [], text => .ok (value, text)
  | _ :: _, [] => .error .endOfText
  | e :: expected, c :: rest => if c = e then word value expected rest else .error .misplaced

/-- Members in order; a repeated key replaces the value at its first place. -/
def insertMember (members : List (String × Json)) (key : String) (value : Json) :
    List (String × Json) :=
  if hasKey members key then members.map fun m => if m.1 = key then (key, value) else m
  else (key, value) :: members

mutual
/-- A value that starts at a character other than a blank. -/
def value : (fuel nesting : Nat) → List Char → Except JsonFault (Json × List Char)
  | 0, _, _ => .error .misplaced
  | fuel + 1, nesting, text =>
    match text with
    | [] => .error .endOfText
    | 'n' :: rest => word .null ['u', 'l', 'l'] rest
    | 't' :: rest => word (.bool true) ['r', 'u', 'e'] rest
    | 'f' :: rest => word (.bool false) ['a', 'l', 's', 'e'] rest
    | '"' :: rest => do
      let (s, rest) ← quoted rest
      return (.string s, rest)
    | '[' :: rest =>
      match nesting with
      | 0 => .error .misplaced
      | nesting + 1 =>
        match skipBlanks rest with
        | ']' :: rest => .ok (.array [], rest)
        | rest => items fuel nesting [] rest
    | '{' :: rest =>
      match nesting with
      | 0 => .error .misplaced
      | nesting + 1 =>
        match skipBlanks rest with
        | '}' :: rest => .ok (.object [], rest)
        | rest => members fuel nesting [] rest
    | c :: rest =>
      if c = '-' || c.isDigit then do
        let (n, rest) ← Numeral.read (c :: rest)
        return (.number n, rest)
      else .error .misplaced
/-- The items of an array from one of them on, `read` being those before it, last first. -/
def items : (fuel nesting : Nat) → (read : List Json) → List Char →
    Except JsonFault (Json × List Char)
  | 0, _, _, _ => .error .misplaced
  | fuel + 1, nesting, read, text => do
    let (item, rest) ← value fuel nesting text
    match skipBlanks rest with
    | ']' :: rest => return (.array (item :: read).reverse, rest)
    | ',' :: rest => items fuel nesting (item :: read) (skipBlanks rest)
    | rest => .error (.expecting rest)
/-- The members of an object from one of them on, `read` being those before it, last first. -/
def members : (fuel nesting : Nat) → (read : List (String × Json)) → List Char →
    Except JsonFault (Json × List Char)
  | 0, _, _, _ => .error .misplaced
  | fuel + 1, nesting, read, text =>
    match text with
    | '"' :: rest => do
      let (key, rest) ← quoted rest
      match skipBlanks rest with
      | ':' :: rest =>
        let (v, rest) ← value fuel nesting (skipBlanks rest)
        match skipBlanks rest with
        | '}' :: rest => return (.object (insertMember read key v).reverse, rest)
        | ',' :: rest => members fuel nesting (insertMember read key v) (skipBlanks rest)
        | rest => .error (.expecting rest)
      | rest => .error (.expecting rest)
    | rest => .error (.expecting rest)
end

end Parser

def parse (text : String) : Except JsonFault Json := do
  let chars := text.toList
  let (v, rest) ← Parser.value (2 * chars.length + 2) Parser.maxNesting (Parser.skipBlanks chars)
  match Parser.skipBlanks rest with
  | [] => return v
  | _ :: _ => .error .misplaced

end Json

end MockData
