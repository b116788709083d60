import MockData.Text.Basic

/-!
# Names of output files

The name that a document gives may hold a placeholder for the number of a record. In the name of a
single record it is replaced by the number. In the name of the file of all records it is removed,
together with a dash or underscore on either side.
-/

namespace MockData

namespace FileName

def placeholder : List Char := "{{index}}".toList

def isSeparator (c : Char) : Bool := c = '-' || c = '_'

/-- The length of the placeholder at the start of a text, with a separator on either side. -/
def separatedLength? (text : List Char) : Option Nat :=
  let (before, body) :=
    match text with
    | c :: rest =>
      if isSeparator c && placeholder.isPrefixOf rest then (1, rest) else (0, c :: rest)
    | [] => (0, [])
  if placeholder.isPrefixOf body then
    let behind := (body.drop placeholder.length).head?.any isSeparator
    some (before + placeholder.length + if behind then 1 else 0)
  else none

/-- The length of the placeholder at the start of a text. -/
def bareLength? (text : List Char) : Option Nat :=
  if placeholder.isPrefixOf text then some placeholder.length else none

/-- Replaces every part whose length `find` gives, from left to right. The first `skip` characters
belong to a part that has been replaced. -/
def replaceAll (find : List Char → Option Nat) (replacement : List Char) :
    (skip : Nat) → List Char → List Char
  | _, [] => []
  | skip + 1, _ :: rest => replaceAll find replacement skip rest
  | 0, c :: rest =>
    match find (c :: rest) with
    | some (length + 1) => replacement ++ replaceAll find replacement length rest
    | _ => c :: replaceAll find replacement 0 rest

def hasPlaceholder : List Char → Bool
  | [] => false
  | c :: rest => placeholder.isPrefixOf (c :: rest) || hasPlaceholder rest

/-- The name of the file of all records when nothing is left of the one that is given. -/
def fallback : String := "output.json"

def cleaned (filename : String) : String :=
  String.ofList (replaceAll separatedLength? [] 0 filename.toList)

def merged (filename : String) : String :=
  let name := cleaned filename
  if name = "" || name = ".json" then fallback else name

/-- The name of the file of one record, whose index is counted from zero. -/
def ofRecord (filename : String) (index : Nat) : String :=
  String.ofList (replaceAll bareLength? (padded 3 (index + 1)).toList 0 filename.toList)

end FileName

end MockData
