import MockData.Calendar.Timestamp
import MockData.Storage.Basic

/-!
# Surroundings

What a run takes from the world besides files: chance, time, the directory and the environment it
works in, and a place to print.
-/

namespace MockData

class Surroundings (m : Type → Type) where
  randomSeed : m UInt64
  /-- A name that no other run has. -/
  runIdentifier : m String
  /-- The present in universal time. -/
  now : m Timestamp
  /-- The milliseconds on a clock that never goes back. -/
  milliseconds : m Nat
  workDirectory : m (Except StorageFault Path)
  /-- A variable of the environment. -/
  environment : String → m (Option String)
  /-- Prints to the standard output. -/
  print : String → m Unit
  /-- Prints to the standard error output. -/
  complain : String → m Unit

namespace Surroundings

variable {m : Type → Type} [Surroundings m]

def printLine (line : String) : m Unit := print (line ++ "\n")

def complainLine (line : String) : m Unit := complain (line ++ "\n")

end Surroundings

end MockData
