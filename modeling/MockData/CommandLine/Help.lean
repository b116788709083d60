import MockData.CommandLine.Signature
import MockData.Text.Basic

/-!
# Help and misuse

The help of the program and of its commands, whose entries stand in two columns, and what can be
wrong with a command line.
-/

namespace MockData

namespace CommandLine

def columns (heading : String) (entries : List (String × String)) : List String :=
  let width := (entries.map fun entry => entry.1.length).foldl max 0
  heading :: entries.map fun (left, right) => "  " ++ paddedEnd width left ++ "  " ++ right

namespace OptionSignature

/-- The option behind its letter, or behind blanks of the same width. -/
def entry (o : OptionSignature) : String × String :=
  let letter :=
    match o.short with
    | some c => "-" ++ c.toString ++ ", "
    | none => "    "
  (letter ++ o.usage, o.help)

end OptionSignature

def helpOption : OptionSignature := ⟨"help", some 'h', none, "Print help"⟩

def versionOption : OptionSignature := ⟨"version", some 'V', none, "Print version"⟩

def optionLines (options : List OptionSignature) : List String :=
  columns "Options:" (options.map OptionSignature.entry)

/-- Parts of a help text, apart by empty lines. -/
def helpText (parts : List (List String)) : String :=
  let shown := parts.filter fun lines => !lines.isEmpty
  "\n".intercalate (shown.map fun lines => String.join (lines.map fun line => line ++ "\n"))

def programUsage : String := "Usage: " ++ programName ++ " [OPTIONS] <COMMAND>"

namespace Signature

def usage (s : Signature) : String :=
  " ".intercalate
    (["Usage:", programName, s.name, "[OPTIONS]"] ++ s.arguments.map ArgumentSignature.usage)

def help (s : Signature) : String :=
  helpText
    [[s.about], [s.usage],
     if s.arguments.isEmpty then [] else
       columns "Arguments:" (s.arguments.map fun a => (a.usage, a.help)),
     optionLines (commonOptions ++ s.options ++ [helpOption])]

end Signature

def helpAbout : String := "Print this message or the help of the given subcommand(s)"

def helpUsage : String := "Usage: " ++ programName ++ " help [COMMAND]"

def commandLines : List String :=
  columns "Commands:"
    ((CommandName.all.map fun c => (c.text, c.signature.about)) ++ [("help", helpAbout)])

def programHelp : String :=
  helpText
    [["Synthetic JSON data generator"], [programUsage], commandLines,
     optionLines (commonOptions ++ [helpOption, versionOption])]

def helpHelp : String := helpText [[helpAbout], [helpUsage]]

def versionText : String := programName ++ " " ++ programVersion ++ "\n"

inductive Misuse where
  | unexpected (argument : String)
  | unknownCommand (name : String)
  | noCommand
  | noValue (option : OptionSignature)
  | badValue (owner value : String)
  | repeated (option : OptionSignature)
  | missing (arguments : List ArgumentSignature)

namespace Misuse

def text : Misuse → String
  | .unexpected argument => "unexpected argument '" ++ argument ++ "' found"
  | .unknownCommand name => "unrecognized subcommand '" ++ name ++ "'"
  | .noCommand => "a subcommand is required but one was not provided"
  | .noValue option =>
    "a value is required for '" ++ option.usage ++ "' but none was supplied"
  | .badValue owner value => "invalid value '" ++ value ++ "' for '" ++ owner ++ "'"
  | .repeated option => "the argument '" ++ option.usage ++ "' cannot be used multiple times"
  | .missing arguments =>
    "the following required arguments were not provided: " ++
      " ".intercalate (arguments.map ArgumentSignature.usage)

def message (m : Misuse) : String :=
  "error: " ++ m.text ++ "\n\n" ++ programUsage ++ "\n\nFor more information, try '--help'.\n"

end Misuse

end CommandLine

end MockData
