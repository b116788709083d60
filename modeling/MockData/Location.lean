import MockData.Text.Basic

/-!
# Locations in a document

A place in a JSON value is named by a pointer: for every key or index on the way to it a slash and
the escaped token. `Location.text` writes the pointer of a location and `Pointer.decode?` reads the
tokens back.
-/

namespace MockData

namespace Pointer

/-- A tilde and a slash inside a token are escaped. -/
def escapeChar (c : Char) : List Char :=
  if c = '~' then ['~', '0'] else if c = '/' then ['~', '1'] else [c]

def escape (token : String) : String := String.ofList (token.toList.flatMap escapeChar)

/-- The pointer of one token below `parent`. -/
def child (parent token : String) : String := parent ++ "/" ++ escape token

/-- The pointer that a message shows: the root is a lone slash, and every other one starts with
a slash. -/
def shown (pointer : String) : String :=
  match pointer.toList with
  | [] => "/"
  | '/' :: _ => pointer
  | _ => "/" ++ pointer

/-- Reads `~0` as a tilde and `~1` as a slash; no other tilde is an escape. -/
def unescape? : List Char → Option (List Char)
  | [] => some []
  | '~' :: '0' :: rest => (unescape? rest).map ('~' :: ·)
  | '~' :: '1' :: rest => (unescape? rest).map ('/' :: ·)
  | c :: rest => if c = '~' then none else (unescape? rest).map (c :: ·)

/-- The tokens of a pointer. It is empty or starts with a slash. -/
def decode? (pointer : String) : Option (List String) :=
  match pointer.toList with
  | [] => some []
  | '/' :: rest => ((Text.split '/' rest).mapM unescape?).map (·.map String.ofList)
  | _ => none

end Pointer

/-- A place below `root`, itself the pointer of a value in some document. -/
structure Location where
  root : String
  tokens : List String
  deriving DecidableEq

namespace Location

def atRoot (root : String) : Location := ⟨root, []⟩

def child (l : Location) (token : String) : Location := { l with tokens := l.tokens ++ [token] }

def item (l : Location) (index : Nat) : Location := l.child (toString index)

def text (l : Location) : String := l.tokens.foldl Pointer.child l.root

end Location

end MockData
