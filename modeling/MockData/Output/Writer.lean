import MockData.Generation.Journal
import MockData.Json.Printer
import MockData.Output.FileName
import MockData.Storage.Basic

/-!
# Writing records

All records go to one file as a list, or each record goes to a file of its own. Every file is
replaced in one step.
-/

namespace MockData

structure WrittenFile where
  path : Path
  size : Nat
  deriving DecidableEq

namespace Output

variable {m : Type → Type} [Monad m] [Storage m]

def writeJson (path : Path) (value : Json) : m (Except StorageFault WrittenFile) := do
  let content := value.pretty.toUTF8
  match ← Storage.replace path content with
  | .ok () => return .ok ⟨path, content.size⟩
  | .error fault => return .error fault

def writeMerged (directory : Path) (filename : String) (records : List Json) :
    m (Except StorageFault (List WrittenFile)) := do
  match ← writeJson (directory.join (FileName.merged filename)) (.array records) with
  | .ok file => return .ok [file]
  | .error fault => return .error fault

/-- Writes each record to its own file, the first of them with number `index`. The first failure
ends it. -/
def writeEach (directory : Path) (filename : String) (index : Nat) :
    List Json → m (Except StorageFault (List WrittenFile))
  | [] => return .ok []
  | record :: rest => do
    match ← writeJson (directory.join (FileName.ofRecord filename index)) record with
    | .error fault => return .error fault
    | .ok file =>
      match ← writeEach directory filename (index + 1) rest with
      | .ok files => return .ok (file :: files)
      | .error fault => return .error fault

def overwriteNote (filename : String) (count : Nat) : Note where
  level := .warn
  message := some ("filename has no {{index}} placeholder; each record overwrites " ++
    "the previous one")
  fields := [("filename", .string filename), ("records", .ofUInt64 count.toUInt64)]

/-- Without a placeholder every record takes the same name, and only the last file counts. -/
def writeSeparate (journal : Note → m Unit) (directory : Path) (filename : String)
    (records : List Json) : m (Except StorageFault (List WrittenFile)) := do
  let indexed := FileName.hasPlaceholder filename.toList
  if 1 < records.length && !indexed then journal (overwriteNote filename records.length)
  match ← writeEach directory filename 0 records with
  | .ok files => return .ok (if indexed then files else files.getLast?.toList)
  | .error fault => return .error fault

end Output

end MockData
