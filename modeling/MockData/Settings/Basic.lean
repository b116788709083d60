import MockData.Calendar.Parser
import MockData.Vocabulary.Basic
import MockData.Settings.Parser
import MockData.Storage.Basic

/-!
# Settings

Settings stand in for options that the command line does not give. They come from a file that the
command line names, or from a file of a fixed name in the working directory, which may be missing.
-/

namespace MockData

structure Settings where
  seed : Option UInt64
  locale : Option Locale
  maxDepth : Option UInt64
  separateFiles : Option Bool
  baseDate : Option Date
  deriving DecidableEq

inductive SettingsError where
  | notFound (path : Path)
  | io (fault : StorageFault)
  | malformed (path : Path)
  deriving DecidableEq

namespace SettingsError

def message : SettingsError → String
  | .notFound path => "config file not found: " ++ path.text
  | .io fault => "failed to read config file: " ++ fault.text
  | .malformed path => "invalid config file " ++ path.text ++ ": not a list of settings"

end SettingsError

namespace Settings

def none : Settings := ⟨.none, .none, .none, .none, .none⟩

def readWord? : SettingValue → Option UInt64
  | .integer n => if 0 ≤ n then some (UInt64.ofNat n.toNat) else .none
  | _ => .none

def readSwitch? : SettingValue → Option Bool
  | .switch on => some on
  | _ => .none

/-- A locale is a text, or a table whose only name is that of the locale, without content. -/
def readLocale? : SettingValue → Option Locale
  | .string s => Locale.parse? s
  | .table _ [(name, .list)] => Locale.parse? name
  | .table _ [(name, .table _ [])] => Locale.parse? name
  | _ => .none

def readDate? : SettingValue → Option Date
  | .string s => Date.parse? s
  | _ => .none

/-- Takes over one entry, whose value must be of the kind of its setting. There are no names but
these. -/
def addEntry? (s : Settings) (name : String) (value : SettingValue) : Option Settings :=
  if name = "seed" then (readWord? value).map fun n => { s with seed := some n }
  else if name = "locale" then (readLocale? value).map fun l => { s with locale := some l }
  else if name = "max_depth" then (readWord? value).map fun n => { s with maxDepth := some n }
  else if name = "separate_files" then
    (readSwitch? value).map fun on => { s with separateFiles := some on }
  else if name = "base_date" then (readDate? value).map fun d => { s with baseDate := some d }
  else .none

def ofEntries? (s : Settings) : SettingEntries → Option Settings
  | [] => some s
  | (name, value) :: rest => do ofEntries? (← s.addEntry? name value) rest

def parse? (text : String) : Option Settings := do ofEntries? none (← SettingsFile.read? text)

/-- The name of the settings file in the working directory. -/
def fileName : String := "datamint.toml"

variable {m : Type → Type} [Monad m] [Storage m]

def load (path : Path) : m (Except SettingsError Settings) := do
  match ← Storage.readText path with
  | .error fault => return .error (.io fault)
  | .ok text =>
    match parse? text with
    | some settings => return .ok settings
    | .none => return .error (.malformed path)

/-- The settings of the file that is named, or of the one in a directory. Only the first must
exist. -/
def discover (named : Option Path) (directory : Path) : m (Except SettingsError Settings) := do
  match named with
  | some path => if ← Storage.isPresent path then load path else return .error (.notFound path)
  | .none =>
    let path := directory.join fileName
    if ← Storage.isPresent path then load path else return .ok none

end Settings

end MockData
