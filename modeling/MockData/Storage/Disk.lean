import MockData.Storage.Basic

/-!
# Disks

A disk holds directories and files in memory. Its nodes are listed by the names that lead to them
from the root, which is always there. Relative paths start at the working directory. For every file
that was opened the disk knows where it is now, if it still has a name.
-/

namespace MockData

inductive DiskNode where
  | file (content : ByteArray)
  | directory

namespace DiskNode

def kind : DiskNode → NodeKind
  | .file _ => .file
  | .directory => .directory

end DiskNode

/-- The way from the root to a node. -/
abbrev Trail := List String

structure Disk where
  nodes : List (Trail × DiskNode)
  work : Trail
  openFiles : List (Option Trail)

namespace Disk

def node? (d : Disk) (trail : Trail) : Option DiskNode :=
  if trail = [] then some .directory else d.nodes.lookup trail

def putNode (trail : Trail) (node : DiskNode) : List (Trail × DiskNode) → List (Trail × DiskNode)
  | [] => [(trail, node)]
  | (t, n) :: rest =>
    if t = trail then (trail, node) :: rest else (t, n) :: putNode trail node rest

def put (d : Disk) (trail : Trail) (node : DiskNode) : Disk :=
  { d with nodes := putNode trail node d.nodes }

def erase (d : Disk) (trail : Trail) : Disk :=
  { d with nodes := d.nodes.filter fun entry => entry.1 ≠ trail }

/-- The node at a trail must be a directory. -/
def enter (d : Disk) (trail : Trail) : Except StorageFault Trail :=
  match d.node? trail with
  | some .directory => .ok trail
  | some (.file _) => .error .notDirectory
  | none => .error .notFound

def maxName : Nat := 255

def maxPath : Nat := 4095

def below (trail : Trail) (name : String) : Except StorageFault Trail :=
  if maxName < name.utf8ByteSize then .error .nameTooLong else .ok (trail ++ [name])

def walk (d : Disk) (trail : Trail) : List PathStep → Except StorageFault Trail
  | [] => .ok trail
  | .here :: rest => d.walk trail rest
  | .up :: rest => d.walk trail.dropLast rest
  | .into name :: rest => do d.walk (← d.enter (← below trail name)) rest

def start (d : Disk) (p : Path) : Trail := if p.isAbsolute then [] else d.work

/-- The end of a path: a name in a directory, or a directory that is reached without a name. -/
inductive Target where
  | named (trail : Trail)
  | directory (trail : Trail)

/-- Walks to the directory that the last step of a path starts from. An empty path leads nowhere. -/
def locate (d : Disk) (p : Path) : Except StorageFault Target :=
  if p.hasNul then .error .nulInName
  else if maxPath < p.text.utf8ByteSize then .error .nameTooLong
  else if p.text = "" then .error .notFound
  else
    match p.steps.getLast? with
    | none => .ok (.directory [])
    | some last => do
      let trail ← d.walk (d.start p) p.steps.dropLast
      match last with
      | .into name => return .named (← below trail name)
      | .here => return .directory trail
      | .up => return .directory trail.dropLast

/-- The node that a path leads to. A slash at the end asks for a directory. -/
def find (d : Disk) (p : Path) : Except StorageFault DiskNode := do
  match ← d.locate p with
  | .directory _ => return .directory
  | .named trail =>
    match d.node? trail with
    | none => .error .notFound
    | some .directory => return .directory
    | some (.file content) =>
      if p.endsWithSlash then .error .notDirectory else return .file content

def makeDirectory (d : Disk) (p : Path) : Except StorageFault Disk := do
  match ← d.locate p with
  | .directory _ => .error .alreadyExists
  | .named trail =>
    match d.node? trail with
    | some _ => .error .alreadyExists
    | none => return d.put trail .directory

def read (d : Disk) (p : Path) : Except StorageFault ByteArray := do
  match ← d.find p with
  | .directory => .error .isDirectory
  | .file content => return content

/-- The trail of a file that is to be written, with its content if it exists. -/
def writable (d : Disk) (p : Path) : Except StorageFault (Trail × Option ByteArray) := do
  match ← d.locate p with
  | .directory _ => .error .isDirectory
  | .named trail =>
    if p.endsWithSlash then .error .isDirectory
    else
      match d.node? trail with
      | some .directory => .error .isDirectory
      | some (.file content) => return (trail, some content)
      | none => return (trail, none)

def write (d : Disk) (p : Path) (content : ByteArray) : Except StorageFault Disk := do
  let (trail, _) ← d.writable p
  return d.put trail (.file content)

def openEnd (d : Disk) (p : Path) : Except StorageFault (Nat × Disk) := do
  let (trail, content) ← d.writable p
  let d := if content.isSome then d else d.put trail (.file .empty)
  return (d.openFiles.length, { d with openFiles := d.openFiles ++ [some trail] })

/-- Adds to an open file, if it still has a name. -/
def addTo (d : Disk) (number : Nat) (content : ByteArray) : Disk :=
  match d.openFiles[number]? with
  | some (some trail) =>
    match d.node? trail with
    | some (.file before) => d.put trail (.file (before ++ content))
    | _ => d
  | _ => d

/-- Where an open file is after a file has taken the place of another. -/
def moved (source target : Trail) : Option Trail → Option Trail
  | none => none
  | some trail =>
    if trail = source then some target
    else if trail = target then none
    else some trail

def fileAt (d : Disk) (p : Path) : Except StorageFault (Trail × ByteArray) := do
  match ← d.locate p with
  | .directory _ => .error .isDirectory
  | .named trail =>
    match d.node? trail with
    | some (.file content) => return (trail, content)
    | some .directory => .error .isDirectory
    | none => .error .notFound

/-- Gives a file the name of another one, which it replaces. -/
def rename (d : Disk) (source target : Path) : Except StorageFault Disk := do
  let (trail, content) ← d.fileAt source
  match ← d.locate target with
  | .directory _ => .error .busy
  | .named goal =>
    if target.endsWithSlash then .error .notDirectory
    else
      match d.node? goal with
      | some .directory => .error .isDirectory
      | _ =>
        let d := (d.erase trail).put goal (.file content)
        return { d with openFiles := d.openFiles.map (moved trail goal) }

def remove (d : Disk) (p : Path) : Except StorageFault Disk := do
  let (trail, _) ← d.fileAt p
  let openFiles := d.openFiles.map fun other => if other = some trail then none else other
  return { d.erase trail with openFiles }

/-- Carries out an operation; the disk stays as it is if that fails. -/
def attempt (operation : Disk → Except StorageFault Disk) :
    StateM Disk (Except StorageFault Unit) := fun d =>
  match operation d with
  | .ok d => (.ok (), d)
  | .error fault => (.error fault, d)

instance : Storage (StateM Disk) where
  kind p := fun d => ((d.find p).map DiskNode.kind, d)
  makeDirectory p := attempt fun d => d.makeDirectory p
  read p := fun d => (d.read p, d)
  write p content := attempt fun d => d.write p content
  rename source target := attempt fun d => d.rename source target
  remove p := attempt fun d => d.remove p

instance : OpenFiles (StateM Disk) where
  Handle := Nat
  openEnd p := fun d =>
    match d.openEnd p with
    | .ok (number, d) => (.ok number, d)
    | .error fault => (.error fault, d)
  addTo number content := fun d => (.ok (), d.addTo number content)

end Disk

end MockData
