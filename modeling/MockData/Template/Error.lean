import MockData.Template.Basic

/-!
# Failures of templates

A directive is malformed for one of a few causes, a provider cannot be found or fails, or a template
is nested too deeply. `DirectiveError.message` is the wording; it ends with the place, unless that
is the root.
-/

namespace MockData

inductive Malformation where
  | severalDirectives (kinds : List DirectiveKind)
  | unexpectedKey (kind : DirectiveKind) (key : String)
  | pathPayload
  | pathMissing
  | pathEmpty
  | argsNotObject
  | payloadNotObject (kind : DirectiveKind)
  | boundNotCount (key : String)
  | boundsReversed
  | boundsMissing
  | optionsMissing
  | probabilityRange
  deriving DecidableEq

namespace Malformation

def quoted (s : String) : String := "\"" ++ s ++ "\""

def text : Malformation → String
  | .severalDirectives kinds =>
    "a directive object may contain only one directive key, found " ++
      ", ".intercalate (kinds.map fun kind => quoted kind.key)
  | .unexpectedKey kind key => "unexpected key " ++ quoted key ++ " in " ++ quoted kind.key ++
      " directive"
  | .pathPayload => "\"$faker\" requires a method path string"
  | .pathMissing => "\"$faker\" requires a \"path\" string"
  | .pathEmpty => "\"$faker\" path must not be empty"
  | .argsNotObject => "\"args\" for \"$faker\" must be a JSON object"
  | .payloadNotObject kind => quoted kind.key ++ " requires an object payload"
  | .boundNotCount key => "\"$array\" " ++ quoted key ++ " must be a non-negative integer"
  | .boundsReversed => "\"$array\" \"min\" must be <= \"max\""
  | .boundsMissing => "\"$array\" requires either \"count\" or both \"min\" and \"max\""
  | .optionsMissing => "\"$oneOf\" requires a non-empty array of options"
  | .probabilityRange => "\"$nullable\" \"probability\" must be a number between 0 and 1"

end Malformation

/-- Why a template cannot be compiled or resolved. An empty range is met only in a template that
was not compiled. -/
inductive DirectiveError where
  | malformed (place : Location) (cause : Malformation)
  | missingProvider (place : Location) (path segment : String)
  | notCallable (place : Location) (path : String)
  | providerFailed (place : Location) (path reason : String)
  | tooDeep (place : Location) (limit : Nat)
  | emptyRange (place : Location)
  deriving DecidableEq

namespace DirectiveError

def place : DirectiveError → Location
  | .malformed place _ => place
  | .missingProvider place _ _ => place
  | .notCallable place _ => place
  | .providerFailed place _ _ => place
  | .tooDeep place _ => place
  | .emptyRange place => place

/-- The wording without the place. -/
def reason : DirectiveError → String
  | .malformed _ cause => cause.text
  | .missingProvider _ path segment =>
    "Invalid faker method path: \"" ++ path ++ "\". \"" ++ segment ++ "\" does not exist."
  | .notCallable _ path =>
    "Faker path \"" ++ path ++ "\" does not resolve to a callable method."
  | .providerFailed _ path reason => "faker \"" ++ path ++ "\" failed: " ++ reason
  | .tooDeep _ limit => "template nesting exceeds the maximum depth of " ++ toString limit
  | .emptyRange _ => "cannot draw from an empty range"

def message (e : DirectiveError) : String :=
  let place := e.place.text
  e.reason ++ (if place = "" then "" else " (at " ++ place ++ ")")

end DirectiveError

end MockData
