import MockData.Json.Value
import MockData.Calendar.Parser

/-!
# Arguments of providers

A provider declares its parameters: a key, the kind of value it takes, and whether it is required.
`Arguments.read` accepts an object whose members all belong to a parameter of their kind. The first
member that does not is reported, and only then a required parameter that is missing.
-/

namespace MockData

inductive ParameterKind where
  | int
  | count
  | float
  | string
  | timestamp
  | array
  deriving DecidableEq

structure Parameter where
  key : String
  kind : ParameterKind
  required : Bool
  deriving DecidableEq

/-- Why a provider cannot work with its arguments. -/
inductive ArgumentFault where
  | notObject
  | unknownKey (key : String)
  | wrongKind (key : String)
  | missing (key : String)
  | refused (reason : String)
  deriving DecidableEq

namespace ArgumentFault

def text : ArgumentFault → String
  | .notObject => "params must be a JSON object"
  | .unknownKey key => "unknown param '" ++ key ++ "'"
  | .wrongKind key => "invalid value for param '" ++ key ++ "'"
  | .missing key => "missing required param '" ++ key ++ "'"
  | .refused reason => reason

end ArgumentFault

def Json.toTimestamp? (value : Json) : Option Timestamp := value.toString?.bind Timestamp.parse?

/-- A value is of a kind. A count is an integer that is not negative. -/
def ParameterKind.accepts (kind : ParameterKind) (value : Json) : Bool :=
  match kind with
  | .int => value.toInt64?.isSome
  | .count => value.toUInt64?.isSome
  | .float => value.toBinary64?.isSome
  | .string => value.toString?.isSome
  | .timestamp => value.toTimestamp?.isSome
  | .array => value.toArray?.isSome

/-- The members of the object of arguments, none if there is no object. -/
structure Arguments where
  members : List (String × Json)

namespace Arguments

def checkMembers (parameters : List Parameter) :
    List (String × Json) → Except ArgumentFault Unit
  | [] => .ok ()
  | (key, value) :: rest =>
    match parameters.find? fun p => p.key = key with
    | none => .error (.unknownKey key)
    | some p =>
      if p.kind.accepts value then checkMembers parameters rest else .error (.wrongKind key)

def checkRequired (members : List (String × Json)) : List Parameter → Except ArgumentFault Unit
  | [] => .ok ()
  | p :: rest =>
    if p.required && !Json.hasKey members p.key then .error (.missing p.key)
    else checkRequired members rest

def read (parameters : List Parameter) (params : Option Json) : Except ArgumentFault Arguments := do
  let members ←
    match params with
    | none => .ok []
    | some (.object members) => .ok members
    | some _ => .error .notObject
  checkMembers parameters members
  checkRequired members parameters
  return ⟨members⟩

def get? (a : Arguments) (key : String) : Option Json := Json.find? a.members key

def int? (a : Arguments) (key : String) : Option Int64 := (a.get? key).bind Json.toInt64?

def count? (a : Arguments) (key : String) : Option UInt64 := (a.get? key).bind Json.toUInt64?

def float? (a : Arguments) (key : String) : Option Binary64 := (a.get? key).bind Json.toBinary64?

def string? (a : Arguments) (key : String) : Option String := (a.get? key).bind Json.toString?

def array? (a : Arguments) (key : String) : Option (List Json) := (a.get? key).bind Json.toArray?

def timestamp? (a : Arguments) (key : String) : Option Timestamp :=
  (a.get? key).bind Json.toTimestamp?

end Arguments

end MockData
