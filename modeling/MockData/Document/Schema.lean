import MockData.Json.Printer
import MockData.Location

/-!
# The schema of documents

A document is an object with a positive whole `count`, an optional `filename` and any `template`.
`DocumentSchema.schema` states this as a JSON Schema, and `violations` lists everything in which a
document departs from it.
-/

namespace MockData

/-- What is wrong with a document, and where. -/
structure Issue where
  code : String
  path : String
  message : String
  deriving DecidableEq

namespace Issue

def text (i : Issue) : String := i.path ++ ": " ++ i.message

def allText (issues : List Issue) : String := "; ".intercalate (issues.map text)

end Issue

namespace DocumentSchema

def one : Json := .number (.float .one)

def countSchema : Json := .object
  [("description", .string "Number of records to generate."),
   ("type", .string "integer"),
   ("format", .string "uint64"),
   ("minimum", one)]

def filenameSchema : Json := .object
  [("description", .string "Output filename; may embed `{{index}}`."),
   ("type", .array [.string "string", .string "null"])]

def templateDescription : String :=
  "Record template, possibly containing `$faker`, `$array`, `$oneOf` and " ++
    "`$nullable` directives."

def schema : Json := .object
  [("$schema", .string "http://json-schema.org/draft-07/schema#"),
   ("title", .string "DocumentSpec"),
   ("description", .string "Wire shape of a schema document, as read from disk."),
   ("type", .string "object"),
   ("required", .array [.string "count", .string "template"]),
   ("properties", .object
     [("count", countSchema),
      ("filename", filenameSchema),
      ("template", .object [("description", .string templateDescription)])])]

def issueAt (pointer message : String) : Issue :=
  ⟨"schema_violation", Pointer.shown pointer, message⟩

def wrongType (pointer types : String) (value : Json) : Issue :=
  issueAt pointer (value.compact ++ " is not of " ++ types)

def requireMember (members : List (String × Json)) (key : String) : List Issue :=
  if Json.hasKey members key then []
  else [issueAt "" (Json.quote key ++ " is a required property")]

/-- A whole number, in either kind of number. -/
def isWhole : Json → Bool
  | .number (.int _ _) => true
  | .number (.float x) => x.isIntegral
  | _ => false

def isBelowOne : Json → Bool
  | .number (.int n _) => decide (n < 1)
  | .number (.float x) => x.lt .one
  | _ => false

def countIssues (value : Json) : List Issue :=
  (if isWhole value then [] else [wrongType "/count" "type \"integer\"" value]) ++
    if isBelowOne value then
      [issueAt "/count" (value.compact ++ " is less than the minimum of 1.0")]
    else []

def filenameIssues : Json → List Issue
  | .null => []
  | .string _ => []
  | value => [wrongType "/filename" "types \"null\", \"string\"" value]

def memberIssues (members : List (String × Json)) (key : String) (issues : Json → List Issue) :
    List Issue :=
  match Json.find? members key with
  | none => []
  | some value => issues value

/-- Everything in which a document departs from the schema. -/
def violations : Json → List Issue
  | .object members =>
    requireMember members "count" ++ requireMember members "template" ++
      memberIssues members "count" countIssues ++ memberIssues members "filename" filenameIssues
  | value => [wrongType "" "type \"object\"" value]

end DocumentSchema

end MockData
