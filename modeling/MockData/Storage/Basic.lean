import MockData.Storage.Path

/-!
# Storage

What the program needs of a file system: directories are made, files are read, written, renamed and
removed, or kept open to be added to. Any monad with these operations will do. On top of them stand
the creation of a directory with everything above it, and the replacement of a file in one step: the
content goes to a temporary file beside it, which then takes its name, so a reader never sees a part
of it.
-/

namespace MockData

inductive NodeKind where
  | file
  | directory
  deriving DecidableEq

inductive StorageFault where
  | notFound
  | alreadyExists
  | notDirectory
  | isDirectory
  | busy
  | nameTooLong
  | nulInName
  | noFileName (path : Path)
  | notText
  | other (reason : String)
  deriving DecidableEq

namespace StorageFault

def text : StorageFault → String
  | .notFound => "No such file or directory (os error 2)"
  | .alreadyExists => "File exists (os error 17)"
  | .notDirectory => "Not a directory (os error 20)"
  | .isDirectory => "Is a directory (os error 21)"
  | .busy => "Device or resource busy (os error 16)"
  | .nameTooLong => "File name too long (os error 36)"
  | .nulInName => "file name contained an unexpected NUL byte"
  | .noFileName path => "invalid output path '" ++ path.text ++ "'"
  | .notText => "stream did not contain valid UTF-8"
  | .other reason => reason

end StorageFault

class Storage (m : Type → Type) where
  /-- What a path leads to. -/
  kind : Path → m (Except StorageFault NodeKind)
  makeDirectory : Path → m (Except StorageFault Unit)
  read : Path → m (Except StorageFault ByteArray)
  /-- Writes a whole file, which may exist. -/
  write : Path → ByteArray → m (Except StorageFault Unit)
  rename : Path → Path → m (Except StorageFault Unit)
  remove : Path → m (Except StorageFault Unit)

/-- Files that stay open. An open file keeps its content under every name it is given; what is added
to one that has lost its name is lost. -/
class OpenFiles (m : Type → Type) where
  Handle : Type
  /-- Opens a file, which may be missing, to add to its end. -/
  openEnd : Path → m (Except StorageFault Handle)
  addTo : Handle → ByteArray → m (Except StorageFault Unit)

namespace Storage

variable {m : Type → Type} [Monad m] [Storage m]

def isPresent (p : Path) : m Bool := do
  match ← kind p with
  | .ok _ => return true
  | .error _ => return false

def isDirectory (p : Path) : m Bool := do
  match ← kind p with
  | .ok .directory => return true
  | _ => return false

def readText (p : Path) : m (Except StorageFault String) := do
  match ← read p with
  | .error fault => return .error fault
  | .ok content =>
    match String.fromUTF8? content with
    | some text => return .ok text
    | none => return .error .notText

/-- Makes a directory; it may exist already. -/
def makeOrKeep (p : Path) : m (Except StorageFault Unit) := do
  match ← makeDirectory p with
  | .ok () => return .ok ()
  | .error fault => if ← isDirectory p then return .ok () else return .error fault

/-- Makes a directory and those above it that are missing. `above` is the number of steps that may
be taken up. -/
def ensureAbove : (above : Nat) → Path → m (Except StorageFault Unit)
  | 0, p => makeOrKeep p
  | above + 1, p => do
    match ← makeDirectory p with
    | .ok () => return .ok ()
    | .error .notFound =>
      match p.parent? with
      | none => makeOrKeep p
      | some parent =>
        match ← ensureAbove above parent with
        | .ok () => makeOrKeep p
        | .error fault => return .error fault
    | .error fault => if ← isDirectory p then return .ok () else return .error fault

/-- Makes a directory and those above it that are missing. Nothing needs to be done for an empty
path. -/
def ensureDirectory (p : Path) : m (Except StorageFault Unit) :=
  if p.text = "" then return .ok () else ensureAbove p.moves.length p

def temporaryName (name : String) : String := "." ++ name ++ ".tmp"

/-- Writes the temporary file and gives it the name of the target. If that fails the temporary file
is removed. -/
def writeThrough (temporary target : Path) (content : ByteArray) :
    m (Except StorageFault Unit) := do
  match ← write temporary content with
  | .error fault => return .error fault
  | .ok () =>
    match ← rename temporary target with
    | .ok () => return .ok ()
    | .error fault =>
      let _ ← remove temporary
      return .error fault

/-- Replaces a file in one step, after making the directories above it. -/
def replace (target : Path) (content : ByteArray) : m (Except StorageFault Unit) := do
  let ready ←
    match target.parent? with
    | none => pure (.ok ())
    | some parent => ensureDirectory parent
  match ready with
  | .error fault => return .error fault
  | .ok () =>
    match target.fileName? with
    | none => return .error (.noFileName target)
    | some name => writeThrough (target.sibling (temporaryName name)) target content

end Storage

end MockData
