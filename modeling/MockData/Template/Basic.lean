import MockData.Json.Value
import MockData.Location

/-!
# Templates

A template is a JSON value in which some objects are directives: a call of a provider, a repeated
element, a choice between options, a value that may be null. `Template` is the form in which every
directive is a constructor of its own, together with the place that it comes from.
-/

namespace MockData

inductive DirectiveKind where
  | faker
  | array
  | oneOf
  | nullable
  deriving DecidableEq

namespace DirectiveKind

def all : List DirectiveKind := [.faker, .array, .oneOf, .nullable]

def key : DirectiveKind → String
  | .faker => "$faker"
  | .array => "$array"
  | .oneOf => "$oneOf"
  | .nullable => "$nullable"

end DirectiveKind

/-- How many elements a repeated element yields. The bounds of a range are inclusive. -/
inductive Cardinality where
  | fixed (count : UInt64)
  | range (min max : UInt64)
  deriving DecidableEq

/-- A compiled template. A literal is null, a boolean, a number or a string. -/
inductive Template where
  | literal (value : Json)
  | sequence (items : List Template)
  | mapping (entries : List (String × Template))
  | faker (place : Location) (path : String) (args : Option (List (String × Json)))
  | array (place : Location) (cardinality : Cardinality) (element : Template)
  | oneOf (place : Location) (options : List Template)
  | nullable (place : Location) (probability : Binary64) (value : Template)

namespace Template

structure Site where
  kind : DirectiveKind
  place : Location
  deriving DecidableEq

mutual
/-- The directives of a template, an outer one before those inside it. -/
def sites : Template → List Site
  | .literal _ => []
  | .sequence items => sitesItems items
  | .mapping entries => sitesEntries entries
  | .faker place _ _ => [⟨.faker, place⟩]
  | .array place _ element => ⟨.array, place⟩ :: sites element
  | .oneOf place options => ⟨.oneOf, place⟩ :: sitesItems options
  | .nullable place _ value => ⟨.nullable, place⟩ :: sites value
def sitesItems : List Template → List Site
  | [] => []
  | t :: rest => sites t ++ sitesItems rest
def sitesEntries : List (String × Template) → List Site
  | [] => []
  | (_, t) :: rest => sites t ++ sitesEntries rest
end

structure Call where
  place : Location
  path : String
  deriving DecidableEq

mutual
/-- The provider calls of a template, in the order of their directives. -/
def calls : Template → List Call
  | .literal _ => []
  | .sequence items => callsItems items
  | .mapping entries => callsEntries entries
  | .faker place path _ => [⟨place, path⟩]
  | .array _ _ element => calls element
  | .oneOf _ options => callsItems options
  | .nullable _ _ value => calls value
def callsItems : List Template → List Call
  | [] => []
  | t :: rest => calls t ++ callsItems rest
def callsEntries : List (String × Template) → List Call
  | [] => []
  | (_, t) :: rest => calls t ++ callsEntries rest
end

end Template

end MockData
