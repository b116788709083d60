import MockData.Text.Basic

/-!
# Paths

A path is a text whose parts are apart by slashes. `Path.steps` says how to walk it; a lone dot
stays where it is and two dots go up. The name, the parent and the siblings of a path do not depend
on dots and slashes that lead nowhere.
-/

namespace MockData

structure Path where
  text : String
  deriving DecidableEq

inductive PathStep where
  | here
  | up
  | into (name : String)
  deriving DecidableEq

namespace Path

/-- The step that a part between slashes stands for; an empty part stands for none. -/
def stepOf (part : List Char) : Option PathStep :=
  if part = [] then none
  else if part = ['.'] then some .here
  else if part = ['.', '.'] then some .up
  else some (.into (String.ofList part))

def steps (p : Path) : List PathStep := (Text.split '/' p.text.toList).filterMap stepOf

def isAbsolute (p : Path) : Bool := p.text.toList.head? = some '/'

def endsWithSlash (p : Path) : Bool := p.text.toList.getLast? = some '/'

/-- The path holds the character that ends a text for an operating system; no file has such a
name. -/
def hasNul (p : Path) : Bool := p.text.toList.contains '\x00'

/-- The steps that lead somewhere. -/
def moves (p : Path) : List PathStep := p.steps.filter fun step => step ≠ .here

def stepText : PathStep → String
  | .here => "."
  | .up => ".."
  | .into name => name

def ofSteps (absolute : Bool) (steps : List PathStep) : Path :=
  ⟨(if absolute then "/" else "") ++ "/".intercalate (steps.map stepText)⟩

/-- The last step, if it is a name. -/
def fileName? (p : Path) : Option String :=
  match p.moves.getLast? with
  | some (.into name) => some name
  | _ => none

/-- The path without its last step. A single relative name has no parent. -/
def parent? (p : Path) : Option Path :=
  match p.moves with
  | [] => none
  | [_] => if p.isAbsolute then some ⟨"/"⟩ else none
  | moves => some (ofSteps p.isAbsolute moves.dropLast)

def sibling (p : Path) (name : String) : Path :=
  ofSteps p.isAbsolute (p.moves.dropLast ++ [.into name])

/-- A path below a directory. An absolute one replaces the directory. -/
def join (p : Path) (below : String) : Path :=
  if below.toList.head? = some '/' || p.text = "" then ⟨below⟩
  else if p.endsWithSlash then ⟨p.text ++ below⟩
  else ⟨p.text ++ "/" ++ below⟩

end Path

end MockData
