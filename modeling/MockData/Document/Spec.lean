import MockData.Json.Printer
import MockData.Text.Quoted

/-!
# Document specifications

The members of a document, read and written. Members may come in any order and others are passed
over; the first member that cannot be read is reported, and only then one that is missing. A list is
read as the members in the order count, filename, template.
-/

namespace MockData

structure DocumentSpec where
  count : UInt64
  filename : Option String
  template : Json
  deriving DecidableEq

inductive SpecFault where
  | wrongType (value : Json) (expected : String)
  | badCount (n : JsonNumber)
  | missing (key : String)
  | tooFew (length : Nat)
  | tooMany (length : Nat)
  deriving DecidableEq

namespace SpecFault

/-- The kind of a value, with the value itself if that is short. -/
def kindText : Json → String
  | .null => "null"
  | .bool b => "boolean `" ++ (if b then "true" else "false") ++ "`"
  | .number (.int n _) => "integer `" ++ toString n ++ "`"
  | .number (.float x) => "floating point `" ++ FloatStyle.plain.text x ++ "`"
  | .string s => "string " ++ Text.quoted s
  | .array _ => "sequence"
  | .object _ => "map"

def text : SpecFault → String
  | .wrongType value expected => "invalid type: " ++ kindText value ++ ", expected " ++ expected
  | .badCount n => "count must be a positive integer, got " ++ n.text
  | .missing key => "missing field `" ++ key ++ "`"
  | .tooFew length =>
    "invalid length " ++ toString length ++ ", expected struct DocumentSpec with 3 elements"
  | .tooMany length =>
    "invalid length " ++ toString length ++ ", expected fewer elements in array"

end SpecFault

namespace DocumentSpec

/-- A count is a word, or a whole binary64 number that is positive and fits a word. -/
def countOf? (n : JsonNumber) : Option UInt64 :=
  match n with
  | .int n _ => if 0 ≤ n then some (UInt64.ofNat n.toNat) else none
  | .float x =>
    if x.isIntegral && Binary64.one.le x && x.floorMagnitude < 0x10000000000000000 then
      some (UInt64.ofNat x.floorMagnitude)
    else none

def readCount : Json → Except SpecFault UInt64
  | .number n =>
    match countOf? n with
    | some count => .ok count
    | none => .error (.badCount n)
  | value => .error (.wrongType value "a JSON number")

def readFilename : Json → Except SpecFault (Option String)
  | .null => .ok none
  | .string s => .ok (some s)
  | value => .error (.wrongType value "a string")

structure Parts where
  count : Option UInt64
  filename : Option (Option String)
  template : Option Json

def Parts.none : Parts := ⟨.none, .none, .none⟩

def readMember (p : Parts) (key : String) (value : Json) : Except SpecFault Parts :=
  if key = "count" then do
    let count ← readCount value
    return { p with count := some count }
  else if key = "filename" then do
    let filename ← readFilename value
    return { p with filename := some filename }
  else if key = "template" then .ok { p with template := some value }
  else .ok p

def readMembers (p : Parts) : List (String × Json) → Except SpecFault Parts
  | [] => .ok p
  | (key, value) :: rest => do readMembers (← readMember p key value) rest

/-- Nothing but the filename may be missing. -/
def ofParts (p : Parts) : Except SpecFault DocumentSpec :=
  match p.count, p.template with
  | none, _ => .error (.missing "count")
  | _, none => .error (.missing "template")
  | some count, some template => .ok ⟨count, p.filename.getD none, template⟩

def ofItems : List Json → Except SpecFault DocumentSpec
  | [] => .error (.tooFew 0)
  | [count] => do
    let _ ← readCount count
    .error (.tooFew 2)
  | [count, filename] => do
    let _ ← readCount count
    let _ ← readFilename filename
    .error (.tooFew 2)
  | count :: filename :: template :: rest => do
    let count ← readCount count
    let filename ← readFilename filename
    if rest.isEmpty then return ⟨count, filename, template⟩
    else .error (.tooMany (rest.length + 3))

def ofJson : Json → Except SpecFault DocumentSpec
  | .object members => do ofParts (← readMembers .none members)
  | .array items => ofItems items
  | value => .error (.wrongType value "struct DocumentSpec")

/-- The members in the order count, filename, template; no filename is left out. -/
def toJson (s : DocumentSpec) : Json := .object
  (("count", .ofUInt64 s.count) ::
    (s.filename.toList.map fun name => ("filename", .string name)) ++ [("template", s.template)])

end DocumentSpec

end MockData
