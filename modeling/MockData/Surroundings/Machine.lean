import MockData.Storage.Disk
import MockData.Surroundings.Basic

/-!
# Machines

A machine is a world in memory: a disk, what was printed, and a clock that stands still. Chance
gives the same seed and the same identifier every time.
-/

namespace MockData

structure Machine where
  disk : Disk
  printed : String
  complaints : String
  seed : UInt64
  identifier : String
  time : Timestamp
  environment : List (String × String)

namespace Machine

/-- The machine with a disk, on which nothing has been printed. -/
def withDisk (disk : Disk) : Machine where
  disk := disk
  printed := ""
  complaints := ""
  seed := 0
  identifier := "00000000-0000-4000-8000-000000000000"
  time := .midnight (Date.dayNumber ⟨2024, 1, 1⟩)
  environment := []

def onDisk {α : Type} (work : StateM Disk α) : StateM Machine α := fun s =>
  let (a, disk) := work s.disk
  (a, { s with disk })

instance : Storage (StateM Machine) where
  kind p := onDisk (Storage.kind p)
  makeDirectory p := onDisk (Storage.makeDirectory p)
  read p := onDisk (Storage.read p)
  write p content := onDisk (Storage.write p content)
  rename source target := onDisk (Storage.rename source target)
  remove p := onDisk (Storage.remove p)

instance : OpenFiles (StateM Machine) where
  Handle := OpenFiles.Handle (StateM Disk)
  openEnd p := onDisk (OpenFiles.openEnd p)
  addTo file content := onDisk (OpenFiles.addTo file content)

instance : Surroundings (StateM Machine) where
  randomSeed := fun s => (s.seed, s)
  runIdentifier := fun s => (s.identifier, s)
  now := fun s => (s.time, s)
  milliseconds := fun s => (0, s)
  workDirectory := fun s => (.ok ⟨"/" ++ "/".intercalate s.disk.work⟩, s)
  environment name := fun s => (s.environment.lookup name, s)
  print text := fun s => ((), { s with printed := s.printed ++ text })
  complain text := fun s => ((), { s with complaints := s.complaints ++ text })

end Machine

end MockData
