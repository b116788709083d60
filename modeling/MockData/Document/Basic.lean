import MockData.Document.Schema
import MockData.Document.Spec
import MockData.Json.Parser
import MockData.Storage.Basic
import MockData.Template.Compile

/-!
# Documents

A document says how many records to make, from which template, and what to call the file. It is
checked against the schema first, then its members are read, and last its template is compiled.
-/

namespace MockData

structure Document where
  count : UInt64
  filename : String
  template : Template
  /-- The template as it is written. -/
  source : Json

/-- Why there is no document. -/
inductive DocumentError where
  | notFound (path : Path)
  | io (fault : StorageFault)
  | notJson (fault : JsonFault)
  | spec (fault : SpecFault)
  | invalid (issues : List Issue)
  | template (e : DirectiveError)
  deriving DecidableEq

namespace JsonFault

def text : JsonFault → String
  | .endOfText => "unexpected end of text"
  | .misplaced => "unexpected character"

end JsonFault

namespace DocumentError

def message : DocumentError → String
  | .notFound path => "schema file not found: " ++ path.text
  | .io fault => "failed to read schema file: " ++ fault.text
  | .notJson fault => "invalid JSON in schema file: " ++ fault.text
  | .spec fault => "invalid JSON in schema file: " ++ fault.text
  | .invalid issues => "invalid schema document: " ++ Issue.allText issues
  | .template e => "invalid template: " ++ e.message

end DocumentError

namespace Document

def defaultFilename : String := "output.json"

def templateRoot : String := "/template"

def ofSpec (spec : DocumentSpec) (limit : Nat) : Except DocumentError Document :=
  match Template.compile spec.template templateRoot limit with
  | .ok template =>
    .ok ⟨spec.count, spec.filename.getD defaultFilename, template, spec.template⟩
  | .error e => .error (.template e)

def ofJson (value : Json) (limit : Nat) : Except DocumentError Document :=
  match DocumentSchema.violations value with
  | [] =>
    match DocumentSpec.ofJson value with
    | .ok spec => ofSpec spec limit
    | .error fault => .error (.spec fault)
  | issues => .error (.invalid issues)

def ofText (text : String) (limit : Nat) : Except DocumentError Document :=
  match Json.parse text with
  | .ok value => ofJson value limit
  | .error fault => .error (.notJson fault)

def load {m : Type → Type} [Monad m] [Storage m] (path : Path) (limit : Nat) :
    m (Except DocumentError Document) := do
  match ← Storage.readText path with
  | .ok text => return ofText text limit
  | .error .notFound => return .error (.notFound path)
  | .error fault => return .error (.io fault)

end Document

end MockData
