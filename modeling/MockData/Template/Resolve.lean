import MockData.Provider.Basic
import MockData.Provider.Registry
import MockData.Template.Error

/-!
# Resolving templates

Resolving a template makes a value from it: every directive is carried out, in order, with draws
from one random source. Every successful call of a provider is counted under its path, also when the
resolution fails later. `Registry.check` looks up the providers of a template without a draw.
-/

namespace MockData

/-- How often the provider at a path was called with success. -/
abbrev Usage := Dictionary Nat

namespace Usage

def count (u : Usage) (path : String) : Nat := (Dictionary.get? u path).getD 0

/-- `n` more calls of the provider at `path`. -/
def add (u : Usage) (path : String) (n : Nat) : Usage := Dictionary.put path (u.count path + n) u

end Usage

structure Progress (σ : Type) where
  source : σ
  usage : Usage

/-- A step of a resolution keeps its progress also when it fails. -/
abbrev Resolution (σ : Type) := ExceptT DirectiveError (StateM (Progress σ))

namespace Resolution

variable {σ : Type}

def draw {α : Type} (d : Draw σ α) : Resolution σ α := fun p =>
  let (a, source) := d p.source
  (.ok a, { p with source })

def countCall (path : String) : Resolution σ Unit := fun p =>
  (.ok (), { p with usage := p.usage.add path 1 })

/-- Collects the results of `n` runs in order. -/
def replicate {α : Type} (n : Nat) (r : Resolution σ α) : Resolution σ (List α) := loop n []
where
  loop : Nat → List α → Resolution σ (List α)
    | 0, done => return done.reverse
    | left + 1, done => do loop left ((← r) :: done)

end Resolution

namespace Registry

def lookup {α : Type} (r : Registry α) (place : Location) (path : String) :
    Except DirectiveError α :=
  match r.resolve path with
  | .ok p => .ok p
  | .error (.missing segment) => .error (.missingProvider place path segment)
  | .error .notCallable => .error (.notCallable place path)

/-- The calls of a template that name no provider. -/
def check {α : Type} (r : Registry α) (t : Template) : List DirectiveError :=
  t.calls.filterMap fun call =>
    match r.lookup call.place call.path with
    | .ok _ => none
    | .error e => some e

end Registry

namespace ProviderError

/-- The failure of a provider at the place of its call. -/
def located (e : ProviderError) (place : Location) (path : String) : DirectiveError :=
  match e with
  | .emptyRange => .emptyRange place
  | e => .providerFailed place path e.message

end ProviderError

namespace Template

variable {σ : Type} [RandomSource σ]

/-- Calls the provider at a path and counts the call if it succeeds. -/
def call (registry : Registry (Provider σ)) (context : RecordContext) (place : Location)
    (path : String) (args : Option (List (String × Json))) : Resolution σ Json := do
  let provider ← liftExcept (registry.lookup place path)
  match ← Resolution.draw (provider context (args.map .object)) with
  | .ok value =>
    Resolution.countCall path
    return value
  | .error e => throw (e.located place path)
where
  liftExcept {α : Type} : Except DirectiveError α → Resolution σ α
    | .ok a => return a
    | .error e => throw e

def drawCardinality (place : Location) : Cardinality → Resolution σ Nat
  | .fixed count => return count.toNat
  | .range min max =>
    if max.toNat < min.toNat then throw (.emptyRange place)
    else Resolution.draw (Draw.between64 min.toNat max.toNat)

mutual
def resolve (registry : Registry (Provider σ)) (context : RecordContext) :
    Template → Resolution σ Json
  | .literal value => return value
  | .sequence items => do return .array (← resolveItems registry context items)
  | .mapping entries => do return .object (← resolveEntries registry context entries)
  | .faker place path args => call registry context place path args
  | .array place cardinality element => do
    let n ← drawCardinality place cardinality
    return .array (← Resolution.replicate n (resolve registry context element))
  | .oneOf place options => do
    if options.isEmpty then throw (.emptyRange place)
    else
      let i ← Resolution.draw (Draw.index options.length)
      resolveOption registry context place options i
  | .nullable _ probability value => do
    if ← Resolution.draw (Draw.chance probability) then return .null
    else resolve registry context value
def resolveItems (registry : Registry (Provider σ)) (context : RecordContext) :
    List Template → Resolution σ (List Json)
  | [] => return []
  | t :: rest => do
    let value ← resolve registry context t
    return value :: (← resolveItems registry context rest)
def resolveEntries (registry : Registry (Provider σ)) (context : RecordContext) :
    List (String × Template) → Resolution σ (List (String × Json))
  | [] => return []
  | (key, t) :: rest => do
    let value ← resolve registry context t
    return (key, value) :: (← resolveEntries registry context rest)
def resolveOption (registry : Registry (Provider σ)) (context : RecordContext)
    (place : Location) : List Template → Nat → Resolution σ Json
  | [], _ => throw (.emptyRange place)
  | t :: _, 0 => resolve registry context t
  | _ :: rest, i + 1 => resolveOption registry context place rest i
end

end Template

end MockData
