import MockData.Digest.Sha256
import MockData.Generation.Records
import MockData.Generation.Report
import MockData.Surroundings.Basic

/-!
# Runs

A run generates all records of a document, writes them and reports what it did. Nothing is written
unless every record could be resolved.
-/

namespace MockData

namespace Generation

variable {m : Type → Type} [Monad m] [Storage m] [Surroundings m]

/-- The seed of a run; chance gives one that is missing. -/
def runSeed (options : GenerateOptions) : m UInt64 :=
  match options.seed with
  | some seed => return seed
  | none => Surroundings.randomSeed

/-- The time that relative dates refer to: midnight of the given day, or the present. -/
def referenceTime (options : GenerateOptions) : m Timestamp :=
  match options.baseDate with
  | some date => return .midnight date.dayNumber
  | none => Surroundings.now

def runContext (options : GenerateOptions) (seed : UInt64) : m RunContext := do
  return ⟨seed, options.locale, ← referenceTime options⟩

def generate (registry : Registry (Provider ChaCha8)) (options : GenerateOptions)
    (document : Document) (seed : UInt64) : m (Except GenerationError GeneratedRecords) := do
  return records registry (← runContext options seed) document

/-- All records of a document with the seed of the options; nothing is written. -/
def generateRecords (registry : Registry (Provider ChaCha8)) (options : GenerateOptions)
    (document : Document) : m (Except GenerationError GeneratedRecords) := do
  generate registry options document (← runSeed options)

def startedNote (identifier : String) (options : GenerateOptions) (document : Document)
    (seed : UInt64) : Note where
  level := .info
  message := some "generation started"
  fields :=
    [("run_id", .string identifier), ("seed", .ofUInt64 seed),
     ("records", .ofUInt64 document.count), ("output_mode", .string options.mode.text),
     ("locale", .string options.locale.text)]

def failedNote (identifier : String) (seed : UInt64) (e : GenerationError) : Note where
  level := .warn
  message := some "generation failed"
  fields :=
    [("run_id", .string identifier), ("seed", .ofUInt64 seed), ("error", .string e.message)]

def fileNote (file : WrittenFile) : Note where
  level := .debug
  message := some "file written"
  fields :=
    [("path", .string file.path.text), ("bytes", GenerationReport.countJson file.size)]

def completedNote (r : GenerationReport) : Note where
  level := .info
  message := some "generation completed"
  fields :=
    [("run_id", .string r.runIdentifier), ("records", GenerationReport.countJson r.generated),
     ("files", GenerationReport.countJson r.files.length),
     ("bytes_written", GenerationReport.countJson r.bytesWritten),
     ("duration_ms", GenerationReport.countJson r.milliseconds)]

/-- Writes the records into the output directory, which is made if it is missing. -/
def writeRecords (journal : Note → m Unit) (options : GenerateOptions) (filename : String)
    (records : List Json) : m (Except StorageFault (List WrittenFile)) := do
  match ← Storage.ensureDirectory options.outDir with
  | .error fault => return .error fault
  | .ok () =>
    match options.mode with
    | .singleFile => Output.writeMerged options.outDir filename records
    | .separateFiles => Output.writeSeparate journal options.outDir filename records

def writeReport (options : GenerateOptions) (report : GenerationReport) :
    m (Except StorageFault Unit) :=
  match options.reportPath with
  | none => return .ok ()
  | some path => Storage.replace path report.toJson.pretty.toUTF8

def noteFiles (journal : Note → m Unit) : List WrittenFile → m Unit
  | [] => return ()
  | file :: rest => do
    journal (fileNote file)
    noteFiles journal rest

/-- Writes the records of a run that began at `start`, then its report. -/
def store (journal : Note → m Unit) (options : GenerateOptions) (filename : String)
    (start : Nat) (report : GenerationReport) (records : List Json) :
    m (Except GenerationError GenerationReport) := do
  match ← writeRecords journal options filename records with
  | .error fault => return .error (.io fault)
  | .ok files =>
    noteFiles journal files
    let finish ← Surroundings.milliseconds
    let report := { report.addFiles files with milliseconds := finish - start }
    match ← writeReport options report with
    | .error fault => return .error (.io fault)
    | .ok () =>
      journal (completedNote report)
      return .ok report

def draftReport (identifier : String) (options : GenerateOptions) (document : Document)
    (seed : UInt64) (generated : GeneratedRecords) : GenerationReport where
  runIdentifier := identifier
  seed := seed
  fingerprint := document.source.fingerprint
  requested := document.count
  generated := generated.records.length
  mode := options.mode
  files := []
  bytesWritten := 0
  milliseconds := 0
  usage := generated.usage

def run (registry : Registry (Provider ChaCha8)) (journal : Note → m Unit)
    (options : GenerateOptions) (document : Document) :
    m (Except GenerationError GenerationReport) := do
  let start ← Surroundings.milliseconds
  let identifier ← Surroundings.runIdentifier
  let seed ← runSeed options
  journal (startedNote identifier options document seed)
  match ← generate registry options document seed with
  | .error e =>
    journal (failedNote identifier seed e)
    return .error e
  | .ok generated =>
    let report := draftReport identifier options document seed generated
    store journal options document.filename start report generated.records

def loadDocument (options : GenerateOptions) (path : Path) :
    m (Except GenerationError Document) := do
  match options.depthLimit with
  | .error e => return .error e
  | .ok limit =>
    match ← Document.load path limit with
    | .ok document => return .ok document
    | .error e => return .error (.document e)

end Generation

end MockData
