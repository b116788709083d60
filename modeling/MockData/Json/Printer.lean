import MockData.Json.Value
import MockData.Numeric.Decimal

/-!
# JSON text

`Json.compact` writes a value without blanks, `Json.pretty` with an indent of two blanks a level.
A quote, a backslash and the characters below U+0020 are escaped, everything else is written as it
is.
-/

namespace MockData

namespace JsonNumber

def text : JsonNumber → String
  | .int n _ => toString n
  | .float x => FloatStyle.json.text x

end JsonNumber

namespace Json

def hexDigit (n : Nat) : Char := (Nat.toDigits 16 n).headD '0'

def escapeChar (c : Char) : List Char :=
  if c = '"' then ['\\', '"']
  else if c = '\\' then ['\\', '\\']
  else if c = '\x08' then ['\\', 'b']
  else if c = '\x0c' then ['\\', 'f']
  else if c = '\n' then ['\\', 'n']
  else if c = '\r' then ['\\', 'r']
  else if c = '\t' then ['\\', 't']
  else if c.toNat < 32 then
    ['\\', 'u', '0', '0', hexDigit (c.toNat / 16), hexDigit (c.toNat % 16)]
  else [c]

def quote (s : String) : String :=
  String.ofList ('"' :: (s.toList.flatMap escapeChar ++ ['"']))

mutual
def appendCompact (out : String) : Json → String
  | .null => out ++ "null"
  | .bool b => out ++ (if b then "true" else "false")
  | .number n => out ++ n.text
  | .string s => out ++ quote s
  | .array items => appendCompactItems (out.push '[') true items |>.push ']'
  | .object members => appendCompactMembers (out.push '{') true members |>.push '}'
def appendCompactItems (out : String) (first : Bool) : List Json → String
  | [] => out
  | item :: rest =>
    appendCompactItems (appendCompact (if first then out else out.push ',') item) false rest
def appendCompactMembers (out : String) (first : Bool) : List (String × Json) → String
  | [] => out
  | (key, value) :: rest =>
    appendCompactMembers
      (appendCompact ((if first then out else out.push ',') ++ quote key |>.push ':') value)
      false rest
end

/-- The text of a value without blanks. -/
def compact (value : Json) : String := appendCompact "" value

/-- A new line, indented by `level` steps of two blanks. -/
def newLine (level : Nat) : String := "\n" ++ String.ofList (List.replicate (2 * level) ' ')

mutual
/-- Appends the text of a value that stands at `level`. -/
def appendPretty (out : String) (level : Nat) : Json → String
  | .null => out ++ "null"
  | .bool b => out ++ (if b then "true" else "false")
  | .number n => out ++ n.text
  | .string s => out ++ quote s
  | .array [] => out ++ "[]"
  | .array (item :: rest) =>
    appendPrettyItems (appendPretty (out.push '[' ++ newLine (level + 1)) (level + 1) item)
      (level + 1) rest ++ newLine level |>.push ']'
  | .object [] => out ++ "{}"
  | .object ((key, value) :: rest) =>
    appendPrettyMembers
      (appendPretty (out.push '{' ++ newLine (level + 1) ++ quote key ++ ": ") (level + 1) value)
      (level + 1) rest ++ newLine level |>.push '}'
def appendPrettyItems (out : String) (level : Nat) : List Json → String
  | [] => out
  | item :: rest =>
    appendPrettyItems (appendPretty (out.push ',' ++ newLine level) level item) level rest
def appendPrettyMembers (out : String) (level : Nat) : List (String × Json) → String
  | [] => out
  | (key, value) :: rest =>
    appendPrettyMembers
      (appendPretty (out.push ',' ++ newLine level ++ quote key ++ ": ") level value) level rest
end

/-- The text of a value over several lines, without a line end at its end. -/
def pretty (value : Json) : String := appendPretty "" 0 value

end Json

end MockData
