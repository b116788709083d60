import MockData.CommandLine.Given
import MockData.Storage.Path

/-!
# Invocations

An invocation is a command with its arguments and what every command takes. `Invocation.read` reads
one from a command line.
-/

namespace MockData

namespace CommandLine

/-- Where the settings come from, and the nesting limit, which settings may give. -/
structure SettingsArguments where
  config : Option Path
  maxDepth : Option UInt64

structure GenerateArguments where
  schema : Path
  outDir : Path
  separateFiles : Bool
  seed : Option UInt64
  locale : Option Locale
  baseDate : Option Date
  report : Option Path
  settings : SettingsArguments

inductive Command where
  | generate (a : GenerateArguments)
  | validate (schema : Path) (settings : SettingsArguments)
  | providers (category : Option String)
  | jsonSchema (out : Option Path)

structure Invocation where
  logFile : Option Path
  verbose : Bool
  command : Command

inductive Request where
  | run (invocation : Invocation)
  | show (text : String)
  | misuse (m : Misuse)

namespace Given

def path? (g : Given) (name : String) : Option Path := (g.value? name).map Path.mk

def word? (g : Given) (name : String) : Option UInt64 := (g.value? name).bind readWord?

def settings (g : Given) : SettingsArguments := ⟨g.path? "config", g.word? "max-depth"⟩

def command (g : Given) (name : CommandName) : Except Misuse Command :=
  match name, g.arguments with
  | .generate, [schema, outDir] =>
    .ok (.generate
      { schema := ⟨schema⟩
        outDir := ⟨outDir⟩
        separateFiles := g.hasSwitch "separate-files"
        seed := g.word? "seed"
        locale := (g.value? "locale").bind Locale.parse?
        baseDate := (g.value? "base-date").bind Date.parse?
        report := g.path? "report"
        settings := g.settings })
  | .validate, [schema] => .ok (.validate ⟨schema⟩ g.settings)
  | .providers, [] => .ok (.providers (g.value? "category"))
  | .jsonSchema, [] => .ok (.jsonSchema (g.path? "out"))
  | name, arguments => .error (.missing (name.signature.arguments.drop arguments.length))

end Given

namespace Request

def halted (help : String) : Halt → Request
  | .help => .show help
  | .version => .show versionText
  | .misuse m => .misuse m

def helpOn : List String → Request
  | [] => .show programHelp
  | ["help"] => .show helpHelp
  | name :: rest =>
    match CommandName.parse? name, rest with
    | some command, [] => .show command.signature.help
    | some _, other :: _ => .misuse (.unknownCommand other)
    | none, _ => .misuse (.unknownCommand name)

/-- Where commands may follow. -/
def front : Given.Place := ⟨commonOptions, [], true, true⟩

def inside (s : Signature) : Given.Place := ⟨commonOptions ++ s.options, s.arguments, false, false⟩

/-- Reads the arguments behind the name of a command. What stands in front of it counts too. -/
def readCommand (before : Given) (name : CommandName) (arguments : List String) : Request :=
  match Given.read (inside name.signature) (fun _ => false) .none arguments with
  | .error halt => halted name.signature.help halt
  | .ok (given, _) =>
    match given.command name with
    | .error m => .misuse m
    | .ok command =>
      .run
        { logFile := given.path? "log-file" <|> before.path? "log-file"
          verbose := given.hasSwitch "verbose" || before.hasSwitch "verbose"
          command := command }

def isCommand (argument : String) : Bool :=
  argument = "help" || (CommandName.parse? argument).isSome

def read (arguments : List String) : Request :=
  match Given.read front isCommand .none arguments with
  | .error halt => halted programHelp halt
  | .ok (_, []) => .misuse .noCommand
  | .ok (given, name :: rest) =>
    match CommandName.parse? name with
    | some command => readCommand given command rest
    | none => helpOn rest

end Request

end CommandLine

end MockData
