import MockData.Generation.Options
import MockData.Output.Writer
import MockData.Template.Resolve

/-!
# Reports

What a run did: the seed that repeats it, the files it wrote, and how often each provider was
called.
-/

namespace MockData

structure GenerationReport where
  runIdentifier : String
  seed : UInt64
  /-- The digest of the template as it is written. -/
  fingerprint : String
  requested : UInt64
  generated : Nat
  mode : OutputMode
  files : List Path
  bytesWritten : Nat
  milliseconds : Nat
  usage : Usage
  deriving DecidableEq

namespace GenerationReport

/-- Adds the files that were written. -/
def addFiles (r : GenerationReport) (files : List WrittenFile) : GenerationReport :=
  { r with
    files := r.files ++ files.map WrittenFile.path
    bytesWritten := r.bytesWritten + files.foldr (fun file n => file.size + n) 0 }

def countJson (n : Nat) : Json := .ofUInt64 n.toUInt64

def toJson (r : GenerationReport) : Json := .object
  [("run_id", .string r.runIdentifier),
   ("seed", .ofUInt64 r.seed),
   ("schema_fingerprint", .string r.fingerprint),
   ("records_requested", .ofUInt64 r.requested),
   ("records_generated", countJson r.generated),
   ("output_mode", .string r.mode.text),
   ("files", .array (r.files.map fun path => .string path.text)),
   ("bytes_written", countJson r.bytesWritten),
   ("duration_ms", countJson r.milliseconds),
   ("provider_usage", .object (r.usage.map fun (path, n) => (path, countJson n)))]

end GenerationReport

end MockData
