import MockData.Template.Error

/-!
# The shape of a directive

`Shape.read?` decides what an object at a template position is: a plain object, or one of the four
directives with its parts still raw. It looks at the keys and at the parts that are no templates
themselves; the element, options or value inside are left to the compiler.
-/

namespace MockData

/-- The parts of a directive object. A list of options stands either directly under the directive
key or under the tokens in between. -/
inductive Shape where
  | faker (path : String) (args : Option (List (String × Json)))
  | array (cardinality : Cardinality) (element : Json)
  | oneOf (inside : List String) (options : List Json)
  | nullable (probability : Binary64) (value : Json)

namespace Shape

def memberOrNull (members : List (String × Json)) (key : String) : Json :=
  (Json.find? members key).getD .null

/-- Every key is the directive's own or one of `allowed`; else the first other one is reported. -/
def checkKeys (kind : DirectiveKind) (members : List (String × Json)) (allowed : List String) :
    Except Malformation Unit :=
  match members.find? fun m => m.1 != kind.key && !allowed.contains m.1 with
  | some m => .error (.unexpectedKey kind m.1)
  | none => .ok ()

def readArgs : Option Json → Except Malformation (Option (List (String × Json)))
  | none => .ok none
  | some .null => .ok none
  | some (.object members) => .ok (some members)
  | some _ => .error .argsNotObject

/-- The path is given as the payload itself or under `path`; the arguments stand beside it. -/
def readPath (node : List (String × Json)) (payload : Json) :
    Except Malformation (String × Option Json) :=
  match payload with
  | .string path => do
    checkKeys .faker node ["args"]
    return (path, Json.find? node "args")
  | .object members => do
    checkKeys .faker node []
    checkKeys .faker members ["path", "args"]
    match Json.find? members "path" with
    | some (.string path) => return (path, Json.find? members "args")
    | _ => .error .pathMissing
  | _ => .error .pathPayload

def readFaker (node : List (String × Json)) (payload : Json) : Except Malformation Shape := do
  let (path, args) ← readPath node payload
  if path = "" then .error .pathEmpty
  else return .faker path (← readArgs args)

/-- The directive stands alone in its object and its payload is an object with keys of its own. -/
def readPayload (kind : DirectiveKind) (node : List (String × Json)) (payload : Json)
    (allowed : List String) : Except Malformation (List (String × Json)) := do
  checkKeys kind node []
  match payload with
  | .object members =>
    checkKeys kind members allowed
    return members
  | _ => .error (.payloadNotObject kind)

/-- A bound is absent, null or an unsigned word. -/
def readBound (payload : List (String × Json)) (key : String) :
    Except Malformation (Option UInt64) :=
  match Json.find? payload key with
  | none => .ok none
  | some .null => .ok none
  | some value =>
    match value.toUInt64? with
    | some n => .ok (some n)
    | none => .error (.boundNotCount key)

/-- A count stands before the bounds, which are read only without it. -/
def readCardinality (payload : List (String × Json)) : Except Malformation Cardinality := do
  match ← readBound payload "count" with
  | some count => return .fixed count
  | none =>
    match ← readBound payload "min", ← readBound payload "max" with
    | some min, some max =>
      if max.toNat < min.toNat then .error .boundsReversed else return .range min max
    | _, _ => .error .boundsMissing

def readArray (node : List (String × Json)) (payload : Json) : Except Malformation Shape := do
  let members ← readPayload .array node payload ["element", "count", "min", "max"]
  return .array (← readCardinality members) (memberOrNull members "element")

/-- The options are the payload itself or stand under `options`; there is at least one. -/
def readOneOf (node : List (String × Json)) (payload : Json) : Except Malformation Shape := do
  checkKeys .oneOf node []
  match payload with
  | .array (option :: rest) => return .oneOf [] (option :: rest)
  | .object members =>
    checkKeys .oneOf members ["options"]
    match Json.find? members "options" with
    | some (.array (option :: rest)) => return .oneOf ["options"] (option :: rest)
    | _ => .error .optionsMissing
  | _ => .error .optionsMissing

/-- Without a probability null is as likely as a value. -/
def readProbability (payload : List (String × Json)) : Except Malformation Binary64 :=
  match Json.find? payload "probability" with
  | none => .ok Binary64.half
  | some .null => .ok Binary64.half
  | some value =>
    match value.toBinary64? with
    | some p => if p.isProbability then .ok p else .error .probabilityRange
    | none => .error .probabilityRange

def readNullable (node : List (String × Json)) (payload : Json) : Except Malformation Shape := do
  let members ← readPayload .nullable node payload ["value", "probability"]
  return .nullable (← readProbability members) (memberOrNull members "value")

def kindsOf (members : List (String × Json)) : List DirectiveKind :=
  DirectiveKind.all.filter fun kind => Json.hasKey members kind.key

/-- An object without a directive key is plain. -/
def read? (members : List (String × Json)) : Except Malformation (Option Shape) :=
  match kindsOf members with
  | [] => .ok none
  | [kind] =>
    let payload := memberOrNull members kind.key
    some <$> match kind with
      | .faker => readFaker members payload
      | .array => readArray members payload
      | .oneOf => readOneOf members payload
      | .nullable => readNullable members payload
  | kinds => .error (.severalDirectives kinds)

end Shape

end MockData
