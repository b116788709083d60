import MockData.Text.Dictionary
import MockData.Text.Quoted
import MockData.Text.Basic

/-!
# The registry of providers

A provider is found under a path of names apart by dots. The registry is a tree: a name stands
either for a provider or for a space of further names. Registering a path makes spaces of the names
in front of its last one, whatever they were before.
-/

namespace MockData

inductive RegistryEntry (α : Type) where
  | provider (p : α)
  | space (entries : List (String × RegistryEntry α))

/-- Why a path leads to no provider: a name is missing in its space, or the path ends at a space. -/
inductive PathError where
  | missing (segment : String)
  | notCallable
  deriving DecidableEq

structure Registry (α : Type) where
  entries : Dictionary (RegistryEntry α)

namespace RegistryEntry

variable {α : Type}

/-- The entries of the space under a name; there are none if it is no space. -/
def spaceAt (entries : Dictionary (RegistryEntry α)) (name : String) :
    Dictionary (RegistryEntry α) :=
  match Dictionary.get? entries name with
  | some (.space below) => below
  | _ => []

def register (p : α) :
    List String → Dictionary (RegistryEntry α) → Dictionary (RegistryEntry α)
  | [], entries => entries
  | [name], entries => Dictionary.put name (.provider p) entries
  | name :: rest, entries =>
    Dictionary.put name (.space (register p rest (spaceAt entries name))) entries

def resolve (entries : Dictionary (RegistryEntry α)) : List String → Except PathError α
  | [] => .error .notCallable
  | name :: rest =>
    match Dictionary.get? entries name with
    | none => .error (.missing name)
    | some (.space below) => resolve below rest
    | some (.provider p) =>
      match rest with
      | [] => .ok p
      | next :: _ => .error (.missing next)

/-- The path of a name in the space at `space`; the outermost space has no path. -/
def pathOf (space name : String) : String := if space = "" then name else space ++ "." ++ name

mutual
/-- The paths of the providers at an entry whose own path is `path`. -/
def paths (path : String) : RegistryEntry α → List String
  | .provider _ => [path]
  | .space entries => pathsIn path entries
def pathsIn (space : String) : List (String × RegistryEntry α) → List String
  | [] => []
  | (name, entry) :: rest => paths (pathOf space name) entry ++ pathsIn space rest
end

end RegistryEntry

namespace Registry

variable {α : Type}

def empty : Registry α := ⟨[]⟩

def segments (path : String) : List String := Text.splitString '.' path

def register (r : Registry α) (path : String) (p : α) : Registry α :=
  ⟨RegistryEntry.register p (segments path) r.entries⟩

def resolve (r : Registry α) (path : String) : Except PathError α :=
  RegistryEntry.resolve r.entries (segments path)

/-- The paths of all providers in ascending order. -/
def paths (r : Registry α) : List String := Text.sorted (RegistryEntry.pathsIn "" r.entries)

def categories (r : Registry α) : List String := r.entries.map Prod.fst

def summary (r : Registry α) : String :=
  "ProviderRegistry " ++ String.singleton '{' ++ " providers: [" ++
    ", ".intercalate (r.paths.map Text.quoted) ++ "] " ++ String.singleton '}'

end Registry

end MockData
