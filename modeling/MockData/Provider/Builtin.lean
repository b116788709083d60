import MockData.Provider.Catalog
import MockData.Provider.Dates
import MockData.Provider.Numbers
import MockData.Provider.Registry
import MockData.Provider.Strings

/-!
# The built-in providers

All providers under their paths, and the registry that holds them.
-/

namespace MockData

namespace Builtin

variable {σ : Type} [RandomSource σ]

def arrayElement : Provider σ :=
  .planned "helpers.arrayElement" [⟨"values", .array, true⟩] fun _ a =>
    match a.array? "values" with
    | some (first :: rest) => .ok fun _ => do
      return (first :: rest).getD (← Draw.index (rest.length + 1)) first
    | _ => .error (.because "values must be a non-empty array")

/-- The providers with arguments of their own. -/
def composed : List (String × Provider σ) :=
  [("number.int", Numbers.int),
   ("number.float", Numbers.float),
   ("number.sequence", Numbers.sequence),
   ("datatype.boolean", Numbers.boolean),
   ("string.uuid", Strings.uuid),
   ("string.alpha", Strings.alpha),
   ("string.alphanumeric", Strings.alphanumeric),
   ("string.numeric", Strings.numeric),
   ("string.pattern", Strings.pattern),
   ("date.between", Dates.between),
   ("date.past", Dates.past),
   ("date.future", Dates.future),
   ("date.recent", Dates.recent),
   ("date.birthdate", Dates.birthdate),
   ("finance.amount", Numbers.amount),
   ("location.latitude", Numbers.latitude),
   ("location.longitude", Numbers.longitude),
   ("helpers.arrayElement", arrayElement),
   ("lorem.word", Lorem.word),
   ("lorem.words", Lorem.wordRun),
   ("lorem.sentence", Lorem.sentence),
   ("lorem.paragraph", Lorem.paragraph),
   ("internet.password", Catalog.password)]

def providers : List (String × Provider σ) :=
  composed ++ Catalog.entries.map fun (path, text) => (path, Catalog.provider path text)

def registry : Registry (Provider σ) :=
  providers.foldl (fun r (path, p) => r.register path p) .empty

end Builtin

end MockData
