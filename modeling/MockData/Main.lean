import MockData.CommandLine.Run
import Std.Time.DateTime.Timestamp

/-!
# The program

The command line in the real world.
-/

namespace MockData

namespace World

def failureNumber? : IO.Error → Option UInt32
  | .noFileOrDirectory _ n _ => some n
  | .alreadyExists _ n _ => some n
  | .inappropriateType _ n _ => some n
  | .resourceBusy n _ => some n
  | .invalidArgument _ n _ => some n
  | .noSuchThing _ n _ => some n
  | .otherError n _ => some n
  | _ => none

/-- Some calls give the number with its sign turned. -/
def magnitude (n : UInt32) : UInt32 := if n < 0x80000000 then n else 0 - n

def fault (e : IO.Error) : StorageFault :=
  match (failureNumber? e).map magnitude with
  | some 2 => .notFound
  | some 16 => .busy
  | some 17 => .alreadyExists
  | some 20 => .notDirectory
  | some 21 => .isDirectory
  | some 36 => .nameTooLong
  | _ => .other (toString e)

/-- The result of an action, or the fault that stopped it. -/
def guarded {α : Type} (work : IO α) : IO (Except StorageFault α) := do
  match ← work.toBaseIO with
  | .ok a => return .ok a
  | .error e => return .error (fault e)

/-- Works on a path, unless no file can have such a name. -/
def onPath {α : Type} (p : Path) (work : String → IO α) : IO (Except StorageFault α) :=
  if p.hasNul then return .error .nulInName else guarded (work p.text)

def kind (path : String) : IO NodeKind := do
  let data ← (← IO.FS.realPath path).metadata
  match data.type with
  | .dir => return .directory
  | _ => return .file

instance : Storage IO where
  kind p := onPath p kind
  makeDirectory p := onPath p fun path => IO.FS.createDir path
  read p := onPath p fun path => IO.FS.readBinFile path
  write p content := onPath p fun path => IO.FS.writeBinFile path content
  rename source target :=
    if target.hasNul then return .error .nulInName
    else onPath source fun path => IO.FS.rename path target.text
  remove p := onPath p fun path => IO.FS.removeFile path

instance : OpenFiles IO where
  Handle := IO.FS.Handle
  openEnd p := onPath p fun path => IO.FS.Handle.mk path .append
  addTo file content := guarded do
    file.write content
    file.flush

/-- A word whose bytes are given, the last of them first. -/
def wordOf (bytes : List UInt8) : UInt64 := bytes.foldr (fun b n => 256 * n + b.toUInt64) 0

def randomBytes (n : Nat) : IO (List UInt8) := do return (← IO.getRandomBytes n.toUSize).toList

/-- The time a number of nanoseconds after the first midnight of 1970. -/
def timeAfterEpoch (nanos : Int) : Timestamp :=
  .ofSeconds (Date.dayNumber ⟨1970, 1, 1⟩) (nanos / Timestamp.nanosPerSecond)
    (nanos % Timestamp.nanosPerSecond).toNat (by simp only [Timestamp.nanosPerSecond]; omega)

def present : IO Timestamp := do
  let now ← Std.Time.Timestamp.now
  return timeAfterEpoch now.toNanosecondsSinceUnixEpoch.val

instance : Surroundings IO where
  randomSeed := do return wordOf (← randomBytes 8)
  runIdentifier := do return Strings.uuidText (Strings.markVersion (← randomBytes 16))
  now := present
  milliseconds := IO.monoMsNow
  workDirectory := guarded do return ⟨(← IO.currentDir).toString⟩
  environment name := IO.getEnv name
  print text := do
    let output ← IO.getStdout
    output.putStr text
    output.flush
  complain text := do
    let output ← IO.getStderr
    output.putStr text
    output.flush

end World

end MockData

def main (arguments : List String) : IO UInt32 := do
  return (← MockData.CommandLine.run arguments).code.toUInt32
