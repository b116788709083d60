import MockData.Settings.Scalar

/-!
# Reading a settings file

A settings file gives names to values, each on a line of its own: a name, an equals sign and a
value. A name with points leads into a table; a line with a name in brackets opens the table that
the lines below it belong to. `SettingsFile.read?` reads a whole file. Numbers with a fraction,
dates and lists with items are values of no setting, so a file with one of them is not read.
-/

namespace MockData

namespace SettingsFile

def isNameChar (c : Char) : Bool := c.isAlphanum || c = '-' || c = '_'

def namePart? (text : List Char) : Option (String × List Char) :=
  match text.head? with
  | none => none
  | some c =>
    if c = '"' || c = '\'' then line? c text.length [] text.tail
    else
      match text.takeWhile isNameChar with
      | [] => none
      | name => some (String.ofList name, text.dropWhile isNameChar)

/-- A name, and the text after the blanks behind it. Blanks may surround the points between its
parts. `fuel` is at least the length of the text. -/
def name? : (fuel : Nat) → List Char → Option (List String × List Char)
  | 0, _ => none
  | fuel + 1, text => do
    let (part, rest) ← namePart? (skipBlanks text)
    match skipBlanks rest with
    | '.' :: rest =>
      let (parts, rest) ← name? fuel rest
      return (part :: parts, rest)
    | rest => return ([part], rest)

def isWordChar (c : Char) : Bool := c.isAlphanum || ['_', '+', '-', '.', ':'].contains c

mutual
def value? : (fuel : Nat) → List Char → Option (SettingValue × List Char)
  | 0, _ => none
  | fuel + 1, text =>
    match text with
    | '"' :: _ => (quoted? '"' text).map fun (s, rest) => (.string s, rest)
    | '\'' :: _ => (quoted? '\'' text).map fun (s, rest) => (.string s, rest)
    | '[' :: rest =>
      match skipLoose? (rest.length + 1) rest with
      | some (']' :: rest) => some (.list, rest)
      | _ => none
    | '{' :: rest =>
      match skipBlanks rest with
      | '}' :: rest => some (.table .braces [], rest)
      | rest => entries? fuel [] rest
    | _ => (word? (text.takeWhile isWordChar)).map fun value => (value, text.dropWhile isWordChar)
/-- The entries of a table up to its closing brace, with commas between them. -/
def entries? : (fuel : Nat) → SettingEntries → List Char → Option (SettingValue × List Char)
  | 0, _, _ => none
  | fuel + 1, entries, text => do
    let (name, value, rest) ← entry? fuel text
    let entries ← entries.add? value name
    match skipBlanks rest with
    | ',' :: rest => entries? fuel entries rest
    | '}' :: rest => return (.table .braces entries, rest)
    | _ => none
def entry? : (fuel : Nat) → List Char → Option (List String × SettingValue × List Char)
  | 0, _ => none
  | fuel + 1, text =>
    match name? (text.length + 1) text with
    | some (name, '=' :: rest) =>
      (value? fuel (skipBlanks rest)).map fun (value, rest) => (name, value, rest)
    | _ => none
end

/-- The name of a table in brackets, after the opening one. -/
def header? (text : List Char) : Option (List String × List Char) :=
  match name? (text.length + 1) text with
  | some (name, ']' :: rest) => some (name, rest)
  | _ => none

/-- The entries on the lines of a text, which go on with those of the table `table`. `fuel` is more
than the length of the text. -/
def readLines? : (fuel : Nat) → (table : List String) → SettingEntries → List Char →
    Option SettingEntries
  | 0, _, _, _ => none
  | _, _, entries, [] => some entries
  | fuel + 1, table, entries, text =>
    match lineEnd? text with
    | some rest => readLines? fuel table entries rest
    | none =>
      match skipBlanks text with
      | '[' :: rest => do
        let (name, rest) ← header? rest
        readLines? fuel name (← entries.addTable? name) (← lineEnd? rest)
      | text => do
        let (name, value, rest) ← entry? (2 * text.length + 2) text
        let entries ← entries.within? (·.add? value name) table
        readLines? fuel table entries (← lineEnd? rest)

/-- The entries of a file, which may start with a mark of its byte order. -/
def read? (text : String) : Option SettingEntries :=
  let chars := text.toList
  let chars := if chars.head? = some '\ufeff' then chars.tail else chars
  readLines? (chars.length + 1) [] [] chars

end SettingsFile

end MockData
