import MockData.CommandLine.Help

/-!
# Given arguments

What a command line gives: the names of switches, the values of options, and arguments without a
name. `Given.read` reads them from left to right and stops at the first that is wrong.
-/

namespace MockData

namespace CommandLine

structure Given where
  switches : List String
  values : List (String × String)
  arguments : List String

/-- Why no command is carried out: help or the version is asked for, or something is wrong. -/
inductive Halt where
  | help
  | version
  | misuse (m : Misuse)

namespace Given

def none : Given := ⟨[], [], []⟩

def hasSwitch (g : Given) (name : String) : Bool := g.switches.contains name

def value? (g : Given) (name : String) : Option String := g.values.lookup name

structure Place where
  options : List OptionSignature
  arguments : List ArgumentSignature
  /-- The version may be asked for. -/
  hasVersion : Bool
  /-- The names of commands may follow. -/
  hasCommands : Bool

def addSwitch (g : Given) (o : OptionSignature) : Except Halt Given :=
  if g.hasSwitch o.name then .error (.misuse (.repeated o))
  else .ok { g with switches := o.name :: g.switches }

def addValue (g : Given) (o : OptionSignature) (kind : ValueKind) (value : String) :
    Except Halt Given :=
  if (g.value? o.name).isSome then .error (.misuse (.repeated o))
  else if kind.accepts value then .ok { g with values := (o.name, value) :: g.values }
  else .error (.misuse (.badValue o.usage value))

def addArgument (place : Place) (g : Given) (value : String) : Except Halt Given :=
  match place.arguments[g.arguments.length]? with
  | .none =>
    .error (.misuse
      (if place.hasCommands && g.arguments.isEmpty then .unknownCommand value
        else .unexpected value))
  | some a =>
    if ValueKind.path.accepts value then .ok { g with arguments := g.arguments ++ [value] }
    else .error (.misuse (.badValue a.usage value))

def addArguments (place : Place) (g : Given) : List String → Except Halt Given
  | [] => .ok g
  | value :: rest => do addArguments place (← g.addArgument place value) rest

def addLetters (place : Place) (argument : String) (g : Given) : List Char → Except Halt Given
  | [] => .ok g
  | c :: rest =>
    if c = 'h' then .error .help
    else if c = 'V' && place.hasVersion then .error .version
    else
      match place.options.find? fun o => o.short = some c with
      | some o => do addLetters place argument (← g.addSwitch o) rest
      | .none => .error (.misuse (.unexpected argument))

/-- An option: its name, and the text behind an equals sign. -/
def splitOption (text : List Char) : String × Option String :=
  match text.dropWhile (· ≠ '=') with
  | [] => (String.ofList text, .none)
  | _ :: value => (String.ofList (text.takeWhile (· ≠ '=')), some (String.ofList value))

/-- The value of an option is the next argument. It does not start with a dash unless it is one. -/
def isValue (argument : String) : Bool :=
  argument = "-" || argument.toList.head? ≠ some '-'

inductive OptionUse where
  | switch (o : OptionSignature)
  | valued (o : OptionSignature) (kind : ValueKind) (value : String)
  /-- The value is the next argument. -/
  | pending (o : OptionSignature) (kind : ValueKind)

/-- Reads an option whose name is behind two dashes. -/
def useOption (place : Place) (text : List Char) : Except Halt OptionUse :=
  let argument := "--" ++ String.ofList text
  let (name, attached) := splitOption text
  if name = "help" && attached.isNone then .error .help
  else if name = "version" && place.hasVersion && attached.isNone then .error .version
  else
    match place.options.find? fun o => o.name = name with
    | .none => .error (.misuse (.unexpected argument))
    | some o =>
      match o.value, attached with
      | .none, .none => .ok (.switch o)
      | .none, some value => .error (.misuse (.badValue o.usage value))
      | some v, some value => .ok (.valued o v.kind value)
      | some v, .none => .ok (.pending o v.kind)

/-- Reads arguments from left to right. Where commands may follow, reading stops at the first
argument for which `isCommand` holds. Behind two dashes there are no options. -/
def read (place : Place) (isCommand : String → Bool) :
    Given → List String → Except Halt (Given × List String)
  | g, [] => .ok (g, [])
  | g, argument :: rest =>
    match argument.toList with
    | ['-', '-'] => do return (← g.addArguments place rest, [])
    | '-' :: '-' :: text => do
      match ← useOption place text with
      | .switch o => read place isCommand (← g.addSwitch o) rest
      | .valued o kind value => read place isCommand (← g.addValue o kind value) rest
      | .pending o kind =>
        match rest with
        | [] => .error (.misuse (.noValue o))
        | value :: rest =>
          if isValue value then read place isCommand (← g.addValue o kind value) rest
          else .error (.misuse (.noValue o))
    | '-' :: c :: letters => do
      read place isCommand (← g.addLetters place argument (c :: letters)) rest
    | _ =>
      if isCommand argument then .ok (g, argument :: rest)
      else do read place isCommand (← g.addArgument place argument) rest

end Given

end CommandLine

end MockData
