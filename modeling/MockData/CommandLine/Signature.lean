import MockData.Calendar.Parser
import MockData.Vocabulary.Basic

/-!
# Signatures of commands

What each command takes: arguments in a fixed order, and options. An option is a switch, or it takes
a value of some kind. Two options belong to every command and may also stand in front of it.
-/

namespace MockData

namespace CommandLine

def programName : String := "datamint"

def programVersion : String := "0.1.0"

def logVariable : String := "RUST_LOG"

inductive ValueKind where
  | path
  | text
  | word
  | locale
  | date
  deriving DecidableEq

/-- A number of 64 bits in decimal digits, which may have a plus sign. -/
def readWord? (text : String) : Option UInt64 :=
  let digits :=
    match text.toList with
    | '+' :: rest => rest
    | chars => chars
  if digits.isEmpty || !digits.all Char.isDigit then none
  else
    let n := digits.foldl (fun n c => 10 * n + (c.toNat - '0'.toNat)) 0
    if n < 0x10000000000000000 then some (UInt64.ofNat n) else none

def ValueKind.accepts (kind : ValueKind) (text : String) : Bool :=
  match kind with
  | .path => text ≠ ""
  | .text => true
  | .word => (readWord? text).isSome
  | .locale => (Locale.parse? text).isSome
  | .date => (Date.parse? text).isSome

/-- The value of an option and the label that stands for it in the help. -/
structure OptionValue where
  kind : ValueKind
  label : String

structure OptionSignature where
  name : String
  short : Option Char
  /-- A switch has no value. -/
  value : Option OptionValue
  help : String

namespace OptionSignature

def switch (name help : String) : OptionSignature := ⟨name, none, none, help⟩

def valued (name : String) (kind : ValueKind) (label help : String) : OptionSignature :=
  ⟨name, none, some ⟨kind, label⟩, help⟩

/-- The option as messages show it. -/
def usage (o : OptionSignature) : String :=
  match o.value with
  | none => "--" ++ o.name
  | some value => "--" ++ o.name ++ " <" ++ value.label ++ ">"

end OptionSignature

/-- An argument without a name, which is a path. -/
structure ArgumentSignature where
  label : String
  help : String

def ArgumentSignature.usage (a : ArgumentSignature) : String := "<" ++ a.label ++ ">"

structure Signature where
  name : String
  about : String
  arguments : List ArgumentSignature
  options : List OptionSignature

def commonOptions : List OptionSignature :=
  [.valued "log-file" .path "PATH" "Append JSON logs to this file",
   ⟨"verbose", some 'v', none, "Log at debug level unless " ++ logVariable ++ " is set"⟩]

def settingsOptions : List OptionSignature :=
  [.valued "config" .path "PATH" "Config file; defaults to ./datamint.toml when present",
   .valued "max-depth" .word "MAX_DEPTH" "Maximum template nesting depth"]

def schemaArgument : ArgumentSignature := ⟨"SCHEMA", "Schema document (JSON)"⟩

inductive CommandName where
  | generate
  | validate
  | providers
  | jsonSchema
  deriving DecidableEq

namespace CommandName

def all : List CommandName := [.generate, .validate, .providers, .jsonSchema]

def signature : CommandName → Signature
  | .generate =>
    { name := "generate"
      about := "Generate records from a schema file"
      arguments := [schemaArgument, ⟨"OUT_DIR", "Output directory, created if missing"⟩]
      options :=
        [.switch "separate-files" "Write one file per record instead of a single array",
         .valued "seed" .word "SEED" "Run seed; the same seed reproduces the same output",
         .valued "locale" .locale "LOCALE"
          "Locale for person, address and company data (en_US, pt_BR)",
         .valued "base-date" .date "DATE" "Reference date for relative date providers (YYYY-MM-DD)",
         .valued "report" .path "PATH" "Write a generation report to this path"] ++
        settingsOptions }
  | .validate =>
    { name := "validate"
      about := "Check a schema file without generating anything"
      arguments := [schemaArgument]
      options := settingsOptions }
  | .providers =>
    { name := "providers"
      about := "List the available faker paths"
      arguments := []
      options := [.valued "category" .text "CATEGORY" "Only list paths in this category"] }
  | .jsonSchema =>
    { name := "json-schema"
      about := "Print the JSON Schema of schema documents"
      arguments := []
      options := [.valued "out" .path "PATH" "Write to this file instead of stdout"] }

def text (c : CommandName) : String := c.signature.name

def parse? (text : String) : Option CommandName := all.find? fun c => c.text = text

end CommandName

end CommandLine

end MockData
