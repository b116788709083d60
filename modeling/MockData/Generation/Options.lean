import MockData.Calendar.Parser
import MockData.Calendar.Timestamp
import MockData.Json.Value
import MockData.Vocabulary.Basic
import MockData.Storage.Path
import MockData.Template.Compile

/-!
# Options of a run

Where the output goes, how it is divided into files, and what the values depend on. Options are
written as a JSON object and read back from one.
-/

namespace MockData

/-- Whether all records share a file or each record has its own. -/
inductive OutputMode where
  | singleFile
  | separateFiles
  deriving DecidableEq

namespace OutputMode

def text : OutputMode → String
  | .singleFile => "single_file"
  | .separateFiles => "separate_files"

def all : List OutputMode := [.singleFile, .separateFiles]

def parse? (text : String) : Option OutputMode := all.find? fun mode => mode.text = text

end OutputMode

structure GenerateOptions where
  outDir : Path
  mode : OutputMode
  /-- Without a seed the run takes a random one. -/
  seed : Option UInt64
  locale : Locale
  maxDepth : UInt64
  /-- The day that relative dates refer to. Without it they refer to the present. -/
  baseDate : Option Date
  reportPath : Option Path
  deriving DecidableEq

namespace GenerateOptions

def standard : GenerateOptions where
  outDir := ⟨"out"⟩
  mode := .singleFile
  seed := none
  locale := .enUS
  maxDepth := Template.defaultLimit.toUInt64
  baseDate := none
  reportPath := none

/-- The members in the order of the structure; what is not given is null. -/
def toJson (o : GenerateOptions) : Json := .object
  [("out_dir", .string o.outDir.text),
   ("output_mode", .string o.mode.text),
   ("seed", .ofOption .ofUInt64 o.seed),
   ("locale", .string o.locale.text),
   ("max_depth", .ofUInt64 o.maxDepth),
   ("base_date", .ofOption (fun date => .string date.text) o.baseDate),
   ("report_path", .ofOption (fun path => .string path.text) o.reportPath)]

/-- A name is a text, or the only key of an object that holds null. -/
def readName? : Json → Option String
  | .string name => some name
  | .object [(name, .null)] => some name
  | _ => none

def readPath? (value : Json) : Option Path := value.toString?.map Path.mk

def readDate? (value : Json) : Option Date := value.toString?.bind Date.parse?

def readOptional? {α : Type} (read : Json → Option α) : Json → Option (Option α)
  | .null => some none
  | value => (read value).map some

/-- Reads the options from values in the order of the structure. -/
def ofValues? (outDir mode seed locale maxDepth baseDate reportPath : Json) :
    Option GenerateOptions := do
  return {
    outDir := ← readPath? outDir
    mode := ← (readName? mode).bind OutputMode.parse?
    seed := ← readOptional? Json.toUInt64? seed
    locale := ← (readName? locale).bind Locale.parse?
    maxDepth := ← maxDepth.toUInt64?
    baseDate := ← readOptional? readDate? baseDate
    reportPath := ← readOptional? readPath? reportPath
  }

/-- Reads the options from an object, whose members may come in any order, or from a list. In an
object, other members are passed over, and those that may be null may be missing. -/
def ofJson? : Json → Option GenerateOptions
  | .object members => do
    let optional (key : String) : Json := (Json.find? members key).getD .null
    ofValues? (← Json.find? members "out_dir") (← Json.find? members "output_mode")
      (optional "seed") (← Json.find? members "locale") (← Json.find? members "max_depth")
      (optional "base_date") (optional "report_path")
  | .array [outDir, mode, seed, locale, maxDepth, baseDate, reportPath] =>
    ofValues? outDir mode seed locale maxDepth baseDate reportPath
  | _ => none

end GenerateOptions

end MockData
