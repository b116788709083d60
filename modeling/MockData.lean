import MockData.Calendar.Date
import MockData.Calendar.Parser
import MockData.Calendar.Timestamp
import MockData.CommandLine.Given
import MockData.CommandLine.Help
import MockData.CommandLine.Invocation
import MockData.CommandLine.Log
import MockData.CommandLine.Run
import MockData.CommandLine.Signature
import MockData.Digest.Sha256
import MockData.Document.Basic
import MockData.Document.Schema
import MockData.Document.Spec
import MockData.Generation.Journal
import MockData.Generation.Options
import MockData.Generation.Records
import MockData.Generation.Report
import MockData.Generation.Run
import MockData.Json.Numeral
import MockData.Json.Parser
import MockData.Json.Printer
import MockData.Json.Value
import MockData.Location
import MockData.Main
import MockData.Numeric.Binary64
import MockData.Numeric.Decimal
import MockData.Output.FileName
import MockData.Output.Writer
import MockData.Pattern.CharSet
import MockData.Pattern.Expr
import MockData.Pattern.Fold
import MockData.Pattern.Meaning
import MockData.Pattern.Named
import MockData.Pattern.Parser
import MockData.Pattern.Sampler
import MockData.Pattern.Syntax
import MockData.Proofs.Calendar.Days
import MockData.Proofs.Calendar.Instants
import MockData.Proofs.Calendar.Reading
import MockData.Proofs.Calendar.Showing
import MockData.Proofs.Document.Acceptance
import MockData.Proofs.Document.RoundTrip
import MockData.Proofs.Document.Sources
import MockData.Proofs.Generation.Accounting
import MockData.Proofs.Generation.Delivery
import MockData.Proofs.Generation.Independence
import MockData.Proofs.Generation.Seeds
import MockData.Proofs.Json.Structure
import MockData.Proofs.Numeric.Nearest
import MockData.Proofs.Numeric.Places
import MockData.Proofs.Numeric.Rounding
import MockData.Proofs.Numeric.Values
import MockData.Proofs.Output.MergedName
import MockData.Proofs.Output.RecordNames
import MockData.Proofs.Provider.Arguments
import MockData.Proofs.Provider.AskedWindows
import MockData.Proofs.Provider.Birthdates
import MockData.Proofs.Provider.ContextUse
import MockData.Proofs.Provider.DateTexts
import MockData.Proofs.Provider.Endings
import MockData.Proofs.Provider.Filler
import MockData.Proofs.Provider.FloatBounds
import MockData.Proofs.Provider.FloatRange
import MockData.Proofs.Provider.Identifiers
import MockData.Proofs.Provider.Listing
import MockData.Proofs.Provider.Notes
import MockData.Proofs.Provider.Rejection
import MockData.Proofs.Provider.Sequence
import MockData.Proofs.Provider.Validation
import MockData.Proofs.Provider.Windows
import MockData.Proofs.Random.Draws
import MockData.Proofs.Random.Support
import MockData.Proofs.Storage.Atomicity
import MockData.Proofs.Template.Choices
import MockData.Proofs.Template.Closure
import MockData.Proofs.Template.Completion
import MockData.Proofs.Template.Conformance
import MockData.Proofs.Template.Faults
import MockData.Proofs.Template.Grammar
import MockData.Proofs.Template.InStep
import MockData.Proofs.Template.Keys
import MockData.Proofs.Template.Laws
import MockData.Proofs.Template.Nesting
import MockData.Proofs.Template.Noninterference
import MockData.Proofs.Template.Origins
import MockData.Proofs.Template.Preflight
import MockData.Proofs.Template.Repetition
import MockData.Proofs.Template.Resolution
import MockData.Proofs.Template.Synonyms
import MockData.Proofs.Template.Tally
import MockData.Proofs.Template.Unplaced
import MockData.Proofs.Template.Usage
import MockData.Proofs.Template.Verbatim
import MockData.Proofs.Text.Dictionary
import MockData.Provider.Arguments
import MockData.Provider.Basic
import MockData.Provider.Builtin
import MockData.Provider.Catalog
import MockData.Provider.Dates
import MockData.Provider.Lorem
import MockData.Provider.Numbers
import MockData.Provider.Registry
import MockData.Provider.Strings
import MockData.Random.ChaCha8
import MockData.Random.Draw
import MockData.Settings.Basic
import MockData.Settings.Parser
import MockData.Settings.Scalar
import MockData.Settings.Value
import MockData.Storage.Basic
import MockData.Storage.Disk
import MockData.Storage.Path
import MockData.Surroundings.Basic
import MockData.Surroundings.Machine
import MockData.Template.Basic
import MockData.Template.Compile
import MockData.Template.Error
import MockData.Template.Resolve
import MockData.Template.Shape
import MockData.Text.Basic
import MockData.Text.Category
import MockData.Text.Dictionary
import MockData.Text.Quoted
import MockData.Vocabulary.Basic
import MockData.Vocabulary.Business
import MockData.Vocabulary.Names
import MockData.Vocabulary.Network
import MockData.Vocabulary.Places
