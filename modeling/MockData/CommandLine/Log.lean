import MockData.Calendar.Timestamp
import MockData.CommandLine.Signature
import MockData.Generation.Journal
import MockData.Surroundings.Basic

/-!
# Logs

Notes go to the console if they are urgent enough, and all of them to the log file, one JSON object
a line.
-/

namespace MockData

namespace CommandLine

inductive Threshold where
  | level (l : Level)
  | nothing
  | everything
  deriving DecidableEq

namespace Threshold

def shows (t : Threshold) (l : Level) : Bool :=
  match t with
  | .level least => decide (least.urgency ≤ l.urgency)
  | .nothing => false
  | .everything => true

def named : List (String × Threshold) :=
  [("off", .nothing), ("error", .level .error), ("warn", .level .warn), ("info", .level .info),
   ("debug", .level .debug), ("trace", .everything)]

/-- The threshold that the environment names, or else the one of the command line. -/
def choose (given : Option String) (verbose : Bool) : Threshold :=
  let standard : Threshold := .level (if verbose then .debug else .info)
  match given with
  | none => standard
  | some name => (named.lookup (String.ofList (name.toList.map Char.toLower))).getD standard

end Threshold

/-- Where notes go: to the console from a threshold on, and to a file that stays open. -/
structure Log (m : Type → Type) [OpenFiles m] where
  threshold : Threshold
  file : Option (OpenFiles.Handle m)

namespace Log

variable {m : Type → Type} [Monad m] [Storage m] [OpenFiles m] [Surroundings m]

/-- Opens the log file; its directory is made if it is missing. -/
def openFile : Option Path → m (Except StorageFault (Option (OpenFiles.Handle m)))
  | none => return .ok none
  | some path => do
    let ready ←
      match path.parent? with
      | none => pure (.ok ())
      | some parent => Storage.ensureDirectory parent
    match ready with
    | .error fault => return .error fault
    | .ok () =>
      match ← OpenFiles.openEnd path with
      | .error fault => return .error fault
      | .ok file => return .ok (some file)

/-- Notes something down. A line that cannot be added to the file is lost. -/
def write (log : Log m) (note : Note) : m Unit := do
  let time := (← Surroundings.now).iso
  if log.threshold.shows note.level then Surroundings.complainLine (note.line time)
  match log.file with
  | none => return ()
  | some file =>
    let _ ← OpenFiles.addTo (m := m) file ((note.toJson time).compact ++ "\n").toUTF8
    return ()

end Log

end CommandLine

end MockData
