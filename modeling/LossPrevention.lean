import LossPrevention.Main
import LossPrevention.Proofs.Audit.Binding
import LossPrevention.Proofs.Audit.Chain
import LossPrevention.Proofs.Binary64.Finite
import LossPrevention.Proofs.Binary64.Integers
import LossPrevention.Proofs.Binary64.Order
import LossPrevention.Proofs.Binary64.Parts
import LossPrevention.Proofs.Binary64.Rounding
import LossPrevention.Proofs.Binary64.Sign
import LossPrevention.Proofs.Binary64.Values
import LossPrevention.Proofs.Classifier.Bounds
import LossPrevention.Proofs.Classifier.Cards
import LossPrevention.Proofs.Classifier.Catalogue
import LossPrevention.Proofs.Classifier.Detection
import LossPrevention.Proofs.Classifier.Idempotence
import LossPrevention.Proofs.Classifier.Keywords
import LossPrevention.Proofs.Classifier.Luhn
import LossPrevention.Proofs.Classifier.Overlap
import LossPrevention.Proofs.Classifier.Redaction
import LossPrevention.Proofs.Classifier.Sources
import LossPrevention.Proofs.CommandLine.Lines
import LossPrevention.Proofs.Condition.Clauses
import LossPrevention.Proofs.Condition.Comparison
import LossPrevention.Proofs.Condition.Equality
import LossPrevention.Proofs.Condition.Integers
import LossPrevention.Proofs.Condition.Meaning
import LossPrevention.Proofs.Condition.Respelling
import LossPrevention.Proofs.Condition.Spec
import LossPrevention.Proofs.Decimal.Shortest
import LossPrevention.Proofs.Document.Fields
import LossPrevention.Proofs.Document.Occurrences
import LossPrevention.Proofs.Document.Readers
import LossPrevention.Proofs.Document.Spelling
import LossPrevention.Proofs.Document.Strict
import LossPrevention.Proofs.Enforcement.Execution
import LossPrevention.Proofs.Enforcement.Merging
import LossPrevention.Proofs.Enforcement.Outcome
import LossPrevention.Proofs.Engine.Duplicates
import LossPrevention.Proofs.Engine.Evaluation
import LossPrevention.Proofs.Engine.Loading
import LossPrevention.Proofs.Engine.Replacement
import LossPrevention.Proofs.Engine.Separation
import LossPrevention.Proofs.Engine.Threshold
import LossPrevention.Proofs.Event.Normal
import LossPrevention.Proofs.Event.Paths
import LossPrevention.Proofs.Event.Removal
import LossPrevention.Proofs.Json.Fields
import LossPrevention.Proofs.Json.Floats
import LossPrevention.Proofs.Json.Numbers
import LossPrevention.Proofs.Json.Numerals
import LossPrevention.Proofs.Json.Printed
import LossPrevention.Proofs.Json.RoundTrip
import LossPrevention.Proofs.Json.Texts
import LossPrevention.Proofs.Json.Unambiguous
import LossPrevention.Proofs.Pattern.Drafts
import LossPrevention.Proofs.Pattern.Matches
import LossPrevention.Proofs.Pattern.Parts
import LossPrevention.Proofs.Pattern.Removal
import LossPrevention.Proofs.Pattern.Residue
import LossPrevention.Proofs.Pattern.Runs
import LossPrevention.Proofs.Pattern.Takes
import LossPrevention.Proofs.Pattern.Words
import LossPrevention.Proofs.Policy.Action
import LossPrevention.Proofs.Policy.Definition
import LossPrevention.Proofs.Processor.Anonymous
import LossPrevention.Proofs.Processor.Books
import LossPrevention.Proofs.Processor.Copies
import LossPrevention.Proofs.Processor.Decision
import LossPrevention.Proofs.Processor.Frame
import LossPrevention.Proofs.Processor.Redaction
import LossPrevention.Proofs.Processor.Refusal
import LossPrevention.Proofs.Processor.Run
import LossPrevention.Proofs.Text.Blank
import LossPrevention.Proofs.Text.Digits
import LossPrevention.Proofs.Time.Arithmetic
import LossPrevention.Proofs.Time.Calendar
import LossPrevention.Proofs.Time.Text
import LossPrevention.Proofs.Tracker.Cap
import LossPrevention.Proofs.Tracker.Contents
import LossPrevention.Proofs.Tracker.Distinct
import LossPrevention.Proofs.Tracker.Expiry
import LossPrevention.Proofs.Tracker.Windows
import LossPrevention.Proofs.Window
