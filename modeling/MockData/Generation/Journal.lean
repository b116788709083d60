import MockData.Json.Printer

/-!
# The journal

What the program notes down while it runs: a level, a message, and further fields.
-/

namespace MockData

inductive Level where
  | debug
  | info
  | warn
  | error
  deriving DecidableEq

namespace Level

def text : Level → String
  | .debug => "DEBUG"
  | .info => "INFO"
  | .warn => "WARN"
  | .error => "ERROR"

/-- Higher levels are more urgent. -/
def urgency : Level → Nat
  | .debug => 1
  | .info => 2
  | .warn => 3
  | .error => 4

end Level

structure Note where
  level : Level
  message : Option String
  fields : List (String × Json)

namespace Note

def allFields (n : Note) : List (String × Json) :=
  n.message.toList.map (fun text => ("message", .string text)) ++ n.fields

def fieldText : String × Json → String
  | ("message", .string s) => s
  | (key, value) => key ++ "=" ++ value.compact

/-- A line for readers. -/
def line (n : Note) (time : String) : String :=
  " ".intercalate ([time, n.level.text] ++ n.allFields.map fieldText)

/-- A line for programs. -/
def toJson (n : Note) (time : String) : Json := .object
  [("timestamp", .string time), ("level", .string n.level.text), ("fields", .object n.allFields)]

end Note

end MockData
