import Assessment.Command
import Assessment.Configuration
import Assessment.Declaration.Basic
import Assessment.Declaration.Mapping
import Assessment.Digest.Basic
import Assessment.Digest.Sha256
import Assessment.Element.Attribute
import Assessment.Element.Basic
import Assessment.Element.Building
import Assessment.Element.Vocabulary
import Assessment.Evaluation.Aggregate
import Assessment.Evaluation.Basic
import Assessment.Evaluation.Environment
import Assessment.Evaluation.Numeric
import Assessment.Evaluation.Operation
import Assessment.Evaluation.View
import Assessment.Execution.Basic
import Assessment.Execution.Stage
import Assessment.Expression.Basic
import Assessment.Expression.Encoding
import Assessment.Expression.Operator
import Assessment.Extension
import Assessment.Fault
import Assessment.Identifier
import Assessment.Item.Definition
import Assessment.Item.Session
import Assessment.Item.State
import Assessment.Item.View
import Assessment.Json.Basic
import Assessment.Json.Decoding
import Assessment.Json.Reading
import Assessment.Json.Writing
import Assessment.Main
import Assessment.Notification
import Assessment.Number.BinaryFraction
import Assessment.Number.Decimal
import Assessment.Number.Reading
import Assessment.Number.Word
import Assessment.Options
import Assessment.Pattern.Basic
import Assessment.Pattern.Layout
import Assessment.Pattern.Reading
import Assessment.Pattern.Room
import Assessment.Proofs.Action
import Assessment.Proofs.Agreement
import Assessment.Proofs.Coupling
import Assessment.Proofs.Declaration.Mapping
import Assessment.Proofs.Element.Building
import Assessment.Proofs.Element.Condition
import Assessment.Proofs.Element.Represented
import Assessment.Proofs.Encoding.Expression
import Assessment.Proofs.Encoding.Item
import Assessment.Proofs.Encoding.Test
import Assessment.Proofs.Evaluation
import Assessment.Proofs.Execution
import Assessment.Proofs.Finite.Definition
import Assessment.Proofs.Finite.Operator
import Assessment.Proofs.Finite.Persistence
import Assessment.Proofs.Finite.Session
import Assessment.Proofs.Finite.Value
import Assessment.Proofs.Integer.Basic
import Assessment.Proofs.Integer.Comparison
import Assessment.Proofs.Integer.Division
import Assessment.Proofs.Integer.Grid
import Assessment.Proofs.Integer.Multiple
import Assessment.Proofs.Integer.Total
import Assessment.Proofs.Item.Attempt
import Assessment.Proofs.Item.AttemptCount
import Assessment.Proofs.Item.Change
import Assessment.Proofs.Item.Course
import Assessment.Proofs.Item.LastWrite
import Assessment.Proofs.Item.Maintained
import Assessment.Proofs.Item.Progress
import Assessment.Proofs.Item.Rejection
import Assessment.Proofs.Item.Retained
import Assessment.Proofs.Item.Seed
import Assessment.Proofs.Item.Stock
import Assessment.Proofs.Item.Typing
import Assessment.Proofs.Item.Upkeep
import Assessment.Proofs.Logic.Connective
import Assessment.Proofs.Misuse.Basic
import Assessment.Proofs.Misuse.Rule
import Assessment.Proofs.Misuse.Test
import Assessment.Proofs.Misuse.Validation
import Assessment.Proofs.Nothing.Evaluation
import Assessment.Proofs.Nothing.Session
import Assessment.Proofs.Nothing.Value
import Assessment.Proofs.Number.Arithmetic
import Assessment.Proofs.Number.Comparison
import Assessment.Proofs.Number.Double
import Assessment.Proofs.Number.Draw
import Assessment.Proofs.Number.Finite
import Assessment.Proofs.Number.Mantissa
import Assessment.Proofs.Number.Printing
import Assessment.Proofs.Number.Rounding
import Assessment.Proofs.Number.Scientific
import Assessment.Proofs.Number.Shortest
import Assessment.Proofs.Operator.Attribute
import Assessment.Proofs.Operator.Inclusion
import Assessment.Proofs.Operator.Record
import Assessment.Proofs.Outline
import Assessment.Proofs.Pattern.Class
import Assessment.Proofs.Pattern.Closing
import Assessment.Proofs.Pattern.Match
import Assessment.Proofs.Pattern.Sequence
import Assessment.Proofs.Pattern.Whole
import Assessment.Proofs.Plan.Building
import Assessment.Proofs.Plan.Control
import Assessment.Proofs.Plan.Nodes
import Assessment.Proofs.Plan.Portrait
import Assessment.Proofs.Plan.Sections
import Assessment.Proofs.Plan.Tree
import Assessment.Proofs.Related
import Assessment.Proofs.Rule.Coverage
import Assessment.Proofs.Rule.Footprint
import Assessment.Proofs.Rule.Place
import Assessment.Proofs.Template.Passes
import Assessment.Proofs.Template.Residue
import Assessment.Proofs.Test.Address
import Assessment.Proofs.Test.Advance
import Assessment.Proofs.Test.Change
import Assessment.Proofs.Test.Clock
import Assessment.Proofs.Test.Coherence
import Assessment.Proofs.Test.Collection
import Assessment.Proofs.Test.Conditions
import Assessment.Proofs.Test.Creation
import Assessment.Proofs.Test.Cursor
import Assessment.Proofs.Test.Deferral
import Assessment.Proofs.Test.Lifecycle
import Assessment.Proofs.Test.Linear
import Assessment.Proofs.Test.Operation
import Assessment.Proofs.Test.Order
import Assessment.Proofs.Test.OutcomeRuns
import Assessment.Proofs.Test.PartEnd
import Assessment.Proofs.Test.Phase
import Assessment.Proofs.Test.Rejection
import Assessment.Proofs.Test.Related
import Assessment.Proofs.Test.Request
import Assessment.Proofs.Test.Run
import Assessment.Proofs.Test.Safety
import Assessment.Proofs.Test.Seed
import Assessment.Proofs.Test.Simulation
import Assessment.Proofs.Test.Skipping
import Assessment.Proofs.Test.Stock
import Assessment.Proofs.Test.Sweep
import Assessment.Proofs.Test.Tally
import Assessment.Proofs.Text.Literal
import Assessment.Proofs.Validation
import Assessment.Proofs.Value.Conformance
import Assessment.Proofs.Value.Equality
import Assessment.Proofs.Value.Printing
import Assessment.Proofs.Variation.Basic
import Assessment.Proofs.Variation.Item
import Assessment.Proofs.Variation.Replay
import Assessment.Proofs.Variation.Session
import Assessment.Proofs.Variation.Test
import Assessment.Property.Age
import Assessment.Property.Boundary
import Assessment.Property.Case
import Assessment.Property.Category
import Assessment.Property.CharSet
import Assessment.Property.Folding
import Assessment.Property.Letter
import Assessment.Property.Listed
import Assessment.Property.Lookup
import Assessment.Property.Script
import Assessment.Property.YesNo
import Assessment.Random.Source
import Assessment.Replay
import Assessment.Rule.Basic
import Assessment.Rule.Encoding
import Assessment.Shape
import Assessment.SortedMap
import Assessment.Test.Control
import Assessment.Test.Definition
import Assessment.Test.Encoding
import Assessment.Test.Plan
import Assessment.Test.Session
import Assessment.Test.State
import Assessment.Test.View
import Assessment.Text.Alphanumeric
import Assessment.Text.Blank
import Assessment.Text.CodeRange
import Assessment.Text.Lowercase
import Assessment.Text.Part
import Assessment.Time
import Assessment.Toml.Document
import Assessment.Toml.Reading
import Assessment.Toml.Word
import Assessment.TriState
import Assessment.Validation.Basic
import Assessment.Validation.Finding
import Assessment.Value.Basic
import Assessment.Value.Building
import Assessment.Value.Encoding
import Assessment.Value.Response
import Assessment.Value.Scalar
import Assessment.Value.Types
