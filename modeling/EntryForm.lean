import EntryForm.Main
import EntryForm.Proofs.Text.Grammar
import EntryForm.Proofs.Rules.Checks
import EntryForm.Proofs.Rules.Repetition
import EntryForm.Proofs.Rules.Walk
import EntryForm.Proofs.WellFormed
import EntryForm.Proofs.Rules.Acceptance
import EntryForm.Proofs.Rules.Places
import EntryForm.Proofs.Wire.Places
import EntryForm.Proofs.Wire.Entries
import EntryForm.Proofs.Wire.Widgets
import EntryForm.Proofs.Rules.Exclusive
import EntryForm.Proofs.Wire.Typed
import EntryForm.Proofs.Json.Written
import EntryForm.Proofs.Wire.Finite
import EntryForm.Proofs.Wire.RoundTrip
import EntryForm.Proofs.Text.Steps
import EntryForm.Proofs.Text.Paths
import EntryForm.Proofs.Wire.Read
import EntryForm.Proofs.Glob.Matching
import EntryForm.Proofs.Files.Selection
import EntryForm.Proofs.Rules.Apart
import EntryForm.Proofs.Rules.Once
import EntryForm.Proofs.Rules.Collection
import EntryForm.Proofs.Rules.Parts
import EntryForm.Proofs.Rules.Independence
import EntryForm.Proofs.Decimal.Infinity
import EntryForm.Proofs.Wire.Reread
import EntryForm.Proofs.Rules.Conversion
import EntryForm.Proofs.Rules.Ceiling
import EntryForm.Proofs.Rules.Leniency
import EntryForm.Proofs.Json.Fed
import EntryForm.Proofs.Json.LineEnd
import EntryForm.Proofs.Decimal.Word
import EntryForm.Proofs.Yaml.Ending
import EntryForm.Proofs.Command.Routes
import EntryForm.Proofs.Rules.Outline
import EntryForm.Proofs.Schema.Validity
import EntryForm.Proofs.Schema.Parts
import EntryForm.Proofs.Schema.Meaning
import EntryForm.Proofs.Schema.Conformance
import EntryForm.Proofs.Command.Entries
import EntryForm.Proofs.Command.Batches
import EntryForm.Proofs.Rules.Movement
import EntryForm.Proofs.Rules.Order
import EntryForm.Proofs.Rules.Names
import EntryForm.Proofs.Text.Bytes
import EntryForm.Proofs.Files.Scan
import EntryForm.Proofs.Text.Count
import EntryForm.Proofs.Rules.Times
import EntryForm.Proofs.Command.Settings
import EntryForm.Proofs.Wire.Grammar
import EntryForm.Proofs.Wire.Change
import EntryForm.Proofs.Json.Sorting
import EntryForm.Proofs.Json.Sorted
import EntryForm.Proofs.Json.Scalars
import EntryForm.Proofs.Json.Printed
import EntryForm.Proofs.Json.Shaped
import EntryForm.Proofs.Yaml.Sorted
import EntryForm.Proofs.Wire.Exact
import EntryForm.Proofs.Wire.Printed
