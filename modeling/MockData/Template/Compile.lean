import MockData.Template.Shape

/-!
# Compiling templates

`Template.compile` turns a JSON value into a template, checks the shape of every directive and
counts the nesting: an item, a member, and the element, option or value of a directive is one level
deeper than what holds it, and no level beyond the limit is entered.
-/

namespace MockData

namespace Template

def defaultLimit : Nat := 64

/-- Compiles the items of a list, `index` being that of the first. -/
def compileItems (compileAt : Location → Json → Except DirectiveError Template)
    (place : Location) (index : Nat) : List Json → Except DirectiveError (List Template)
  | [] => .ok []
  | item :: rest => do
    let t ← compileAt (place.item index) item
    let ts ← compileItems compileAt place (index + 1) rest
    return t :: ts

def compileMembers (compileAt : Location → Json → Except DirectiveError Template)
    (place : Location) : List (String × Json) → Except DirectiveError (List (String × Template))
  | [] => .ok []
  | (key, value) :: rest => do
    let t ← compileAt (place.child key) value
    let ts ← compileMembers compileAt place rest
    return (key, t) :: ts

def compileShape (compileAt : Location → Json → Except DirectiveError Template)
    (place : Location) : Shape → Except DirectiveError Template
  | .faker path args => .ok (.faker place path args)
  | .array cardinality element => do
    let t ← compileAt ((place.child DirectiveKind.array.key).child "element") element
    return .array place cardinality t
  | .oneOf inside options => do
    let list := inside.foldl Location.child (place.child DirectiveKind.oneOf.key)
    let ts ← compileItems compileAt list 0 options
    return .oneOf place ts
  | .nullable probability value => do
    let t ← compileAt ((place.child DirectiveKind.nullable.key).child "value") value
    return .nullable place probability t

/-- Compiles a value that may use `levels` levels of nesting, its own included. -/
def compileWithin (limit : Nat) : (levels : Nat) → Location → Json →
    Except DirectiveError Template
  | 0, place, _ => .error (.tooDeep place limit)
  | levels + 1, place, value =>
    match value with
    | .array items => .sequence <$> compileItems (compileWithin limit levels) place 0 items
    | .object members =>
      match Shape.read? members with
      | .error cause => .error (.malformed place cause)
      | .ok none => .mapping <$> compileMembers (compileWithin limit levels) place members
      | .ok (some shape) => compileShape (compileWithin limit levels) place shape
    | scalar => .ok (.literal scalar)

/-- Compiles the template at the pointer `root`; its own level is zero. -/
def compile (value : Json) (root : String) (limit : Nat) : Except DirectiveError Template :=
  compileWithin limit (limit + 1) (.atRoot root) value

end Template

end MockData
