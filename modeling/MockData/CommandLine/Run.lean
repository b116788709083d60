import MockData.CommandLine.Invocation
import MockData.CommandLine.Log
import MockData.Document.Schema
import MockData.Generation.Records
import MockData.Generation.Run
import MockData.Provider.Builtin
import MockData.Settings.Basic

/-!
# Running commands

Every command as an action in its surroundings. `CommandLine.run` carries out a whole command line
and gives the exit status.
-/

namespace MockData

namespace CommandLine

inductive Failure where
  | settings (e : SettingsError)
  | log (fault : StorageFault)
  | generation (e : GenerationError)
  | io (fault : StorageFault)
  | unresolved (count : Nat)
  deriving DecidableEq

namespace Failure

def message : Failure → String
  | .settings e => e.message
  | .log fault => "failed to open log file: " ++ fault.text
  | .generation e => e.message
  | .io fault => "io error: " ++ fault.text
  | .unresolved count => "schema has " ++ toString count ++ " unresolvable faker path(s)"

/-- The line that the user reads. -/
def userMessage : Failure → String
  | .generation (.document (.notFound path)) => "Error: Schema file not found: " ++ path.text
  | .generation (.document e) => "Error parsing schema: " ++ e.message
  | .generation (.record number e) =>
    "Error generating record " ++ toString number ++ ": " ++ e.message
  | .generation (.io fault) => "Error writing output: " ++ fault.text
  | e => "Error: " ++ e.message

end Failure

inductive ExitStatus where
  | success
  | failure
  | misuse
  deriving DecidableEq

namespace ExitStatus

def code : ExitStatus → UInt8
  | .success => 0
  | .failure => 1
  | .misuse => 2

end ExitStatus

def registry : Registry (Provider ChaCha8) := Builtin.registry

variable {m : Type → Type} [Monad m] [Storage m] [OpenFiles m] [Surroundings m]

/-- What a command does: it may end early with a failure. -/
abbrev Action (m : Type → Type) := ExceptT Failure m

namespace Action

/-- A step that cannot fail. -/
def act {α : Type} (work : m α) : Action m α := ExceptT.lift work

/-- A step with failures of its own kind. -/
def step {ε α : Type} (failure : ε → Failure) (work : m (Except ε α)) : Action m α := do
  match ← act work with
  | .ok a => return a
  | .error e => throw (failure e)

end Action

def loadSettings (a : SettingsArguments) : Action m Settings := do
  let directory ← Action.step .io Surroundings.workDirectory
  Action.step .settings (Settings.discover a.config directory)

/-- The nesting limit: that of the command line, of the settings, or else the usual one. -/
def chooseDepth (a : SettingsArguments) (s : Settings) : UInt64 :=
  (a.maxDepth <|> s.maxDepth).getD GenerateOptions.standard.maxDepth

/-- The options of a run. Those of the command line go before the settings; separate files are
written if either asks for them. -/
def generateOptions (a : GenerateArguments) (s : Settings) : GenerateOptions where
  outDir := a.outDir
  mode := if a.separateFiles || s.separateFiles.getD false then .separateFiles else .singleFile
  seed := a.seed <|> s.seed
  locale := (a.locale <|> s.locale).getD GenerateOptions.standard.locale
  maxDepth := chooseDepth a.settings s
  baseDate := a.baseDate <|> s.baseDate
  reportPath := a.report

def eventNote (level : Level) (event : String) (fields : List (String × Json)) : Note :=
  ⟨level, none, ("event", .string event) :: fields⟩

def printWritten (report : GenerationReport) (outDir : Path) : m Unit :=
  match report.mode with
  | .singleFile =>
    match report.files with
    | [] => return ()
    | path :: _ =>
      Surroundings.printLine
        ("Written " ++ toString report.generated ++ " records to " ++ path.text)
  | .separateFiles =>
    Surroundings.printLine
      ("Written " ++ toString report.generated ++ " separate files to " ++ outDir.text)

def generate (log : Log m) (a : GenerateArguments) : Action m Unit := do
  let settings ← loadSettings a.settings
  let options := generateOptions a settings
  Action.act (log.write (eventNote .debug "options_resolved" [("options", options.toJson)]))
  let document ← Action.step .generation (Generation.loadDocument options a.schema)
  Action.act
    (Surroundings.printLine ("Generating " ++ toString document.count.toNat ++ " records..."))
  let report ← Action.step .generation (Generation.run registry log.write options document)
  Action.act (printWritten report options.outDir)
  Action.act (Surroundings.printLine "Done!")

def complainAll : List DirectiveError → m Unit
  | [] => return ()
  | e :: rest => do
    Surroundings.complainLine e.message
    complainAll rest

def validate (schema : Path) (a : SettingsArguments) : Action m Unit := do
  let settings ← loadSettings a
  let options := { GenerateOptions.standard with maxDepth := chooseDepth a settings }
  let document ← Action.step .generation (Generation.loadDocument options schema)
  match registry.check document.template with
  | [] =>
    Action.act (Surroundings.printLine
      ("Schema is valid: " ++ toString document.count.toNat ++ " records to " ++ document.filename))
  | errors =>
    Action.act (complainAll errors)
    throw (.unresolved errors.length)

def printLines : List String → m Unit
  | [] => return ()
  | line :: rest => do
    Surroundings.printLine line
    printLines rest

def listedPaths (category : Option String) : List String :=
  match category with
  | none => registry.paths
  | some name =>
    registry.paths.filter fun path => (name ++ ".").toList.isPrefixOf path.toList

def printSchema (log : Log m) : Option Path → Action m Unit
  | none => Action.act (Surroundings.printLine DocumentSchema.schema.pretty)
  | some path => do
    Action.step .io (Storage.replace path DocumentSchema.schema.pretty.toUTF8)
    Action.act (log.write (eventNote .info "json_schema_written" [("path", .string path.text)]))

def perform (log : Log m) : Command → Action m Unit
  | .generate a => generate log a
  | .validate schema a => validate schema a
  | .providers category => Action.act (printLines (listedPaths category))
  | .jsonSchema out => printSchema log out

def conclude (log : Log m) (command : Command) : m ExitStatus := do
  match ← (perform log command).run with
  | .ok () => return .success
  | .error e =>
    log.write (eventNote .error "command_failed" [("error", .string e.message)])
    Surroundings.complainLine e.userMessage
    return .failure

/-- Carries out an invocation; first of all the log file is opened. -/
def invoke (i : Invocation) : m ExitStatus := do
  let threshold := Threshold.choose (← Surroundings.environment logVariable) i.verbose
  match ← Log.openFile i.logFile with
  | .error fault =>
    Surroundings.complainLine (Failure.log fault).userMessage
    return .failure
  | .ok file => conclude ⟨threshold, file⟩ i.command

def run (arguments : List String) : m ExitStatus := do
  match Request.read arguments with
  | .run invocation => invoke invocation
  | .show text =>
    Surroundings.print text
    return .success
  | .misuse m =>
    Surroundings.complain m.message
    return .misuse

end CommandLine

end MockData
