import MockData.Document.Basic
import MockData.Generation.Options
import MockData.Random.ChaCha8
import MockData.Template.Resolve

/-!
# Generating records

Every record is resolved with a random source of its own, whose seed comes from the seed of the run
and the index of the record. The first record that fails ends the generation.
-/

namespace MockData

/-- Why a generation fails. Records are counted from one. -/
inductive GenerationError where
  | document (e : DocumentError)
  | record (number : Nat) (e : DirectiveError)
  | noDepth
  | io (fault : StorageFault)
  deriving DecidableEq

namespace GenerationError

def message : GenerationError → String
  | .document e => e.message
  | .record number e => "error generating record " ++ toString number ++ ": " ++ e.message
  | .noDepth => "invalid options: max_depth must be at least 1"
  | .io fault => "io error: " ++ fault.text

end GenerationError

/-- The nesting that templates may have. It cannot be zero. -/
def GenerateOptions.depthLimit (o : GenerateOptions) : Except GenerationError Nat :=
  if o.maxDepth = 0 then .error .noDepth else .ok o.maxDepth.toNat

/-- What all records of a run have in common. -/
structure RunContext where
  seed : UInt64
  locale : Locale
  reference : Timestamp

def recordSeed (seed index : UInt64) : UInt64 :=
  let hash := (seed ^^^ index * 0x9e3779b97f4a7c15) * 0x100000001b3
  hash ^^^ (hash >>> 29)

structure GeneratedRecords where
  records : List Json
  seed : UInt64
  usage : Usage

namespace RunContext

def ofRecord (c : RunContext) (index : UInt64) : RecordContext := ⟨index, c.locale, c.reference⟩

end RunContext

namespace Generation

def resolveRecord (registry : Registry (Provider ChaCha8)) (context : RunContext)
    (template : Template) (index : UInt64) (usage : Usage) : Except DirectiveError Json × Usage :=
  let source := ChaCha8.ofSeed (recordSeed context.seed index)
  let (result, progress) :=
    (template.resolve registry (context.ofRecord index)).run ⟨source, usage⟩
  (result, progress.usage)

/-- Resolves `left` records from `index` on, after those that are `done`, latest first. -/
def resolveFrom (registry : Registry (Provider ChaCha8)) (context : RunContext)
    (template : Template) :
    (left index : Nat) → Usage → (done : List Json) → Except GenerationError GeneratedRecords
  | 0, _, usage, done => .ok ⟨done.reverse, context.seed, usage⟩
  | left + 1, index, usage, done =>
    match resolveRecord registry context template (UInt64.ofNat index) usage with
    | (.ok record, usage) =>
      resolveFrom registry context template left (index + 1) usage (record :: done)
    | (.error e, _) => .error (.record (index + 1) e)

def records (registry : Registry (Provider ChaCha8)) (context : RunContext)
    (document : Document) : Except GenerationError GeneratedRecords :=
  resolveFrom registry context document.template document.count.toNat 0 [] []

end Generation

end MockData
