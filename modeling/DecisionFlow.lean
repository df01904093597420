import DecisionFlow.Check.Basic
import DecisionFlow.Check.Scalar
import DecisionFlow.Command.Display
import DecisionFlow.Command.Options
import DecisionFlow.Command.Outcome
import DecisionFlow.Command.Request
import DecisionFlow.Command.Run
import DecisionFlow.Engine.Evaluation
import DecisionFlow.Engine.Session
import DecisionFlow.Engine.State
import DecisionFlow.Engine.Walk
import DecisionFlow.Expression.Datum
import DecisionFlow.Expression.Evaluation
import DecisionFlow.Expression.Form
import DecisionFlow.Expression.Operand
import DecisionFlow.Fault
import DecisionFlow.Fields
import DecisionFlow.Files.Location
import DecisionFlow.Files.Tree
import DecisionFlow.Graph.Content
import DecisionFlow.Graph.Definition
import DecisionFlow.Graph.Kind
import DecisionFlow.Graph.Options
import DecisionFlow.Handler.Basic
import DecisionFlow.Handler.Registry
import DecisionFlow.Handler.Standard
import DecisionFlow.Json.Basic
import DecisionFlow.Json.Indented
import DecisionFlow.Json.Printer
import DecisionFlow.Json.Reader
import DecisionFlow.Main
import DecisionFlow.Node.Assignments
import DecisionFlow.Node.Cell
import DecisionFlow.Node.Switch
import DecisionFlow.Node.Table
import DecisionFlow.Number.Double
import DecisionFlow.Number.Fixed
import DecisionFlow.Number.Grouped
import DecisionFlow.Number.Layout
import DecisionFlow.Number.Literal
import DecisionFlow.Number.Shortest
import DecisionFlow.Proofs.Alignment
import DecisionFlow.Proofs.Assigning
import DecisionFlow.Proofs.Atomicity
import DecisionFlow.Proofs.Atoms
import DecisionFlow.Proofs.Cache
import DecisionFlow.Proofs.Choices
import DecisionFlow.Proofs.Columns
import DecisionFlow.Proofs.Commands
import DecisionFlow.Proofs.Comparisons
import DecisionFlow.Proofs.Conditions
import DecisionFlow.Proofs.Contents
import DecisionFlow.Proofs.Counterparts
import DecisionFlow.Proofs.Deadline
import DecisionFlow.Proofs.Decimals
import DecisionFlow.Proofs.Doubles
import DecisionFlow.Proofs.Edges
import DecisionFlow.Proofs.Equality
import DecisionFlow.Proofs.Failures
import DecisionFlow.Proofs.Faults
import DecisionFlow.Proofs.HitPolicies
import DecisionFlow.Proofs.Integers
import DecisionFlow.Proofs.Journeys
import DecisionFlow.Proofs.Keeping
import DecisionFlow.Proofs.KeyOrder
import DecisionFlow.Proofs.LastElements
import DecisionFlow.Proofs.Literals
import DecisionFlow.Proofs.Loading
import DecisionFlow.Proofs.Locality
import DecisionFlow.Proofs.Markup
import DecisionFlow.Proofs.Matching
import DecisionFlow.Proofs.Moves
import DecisionFlow.Proofs.Normalization
import DecisionFlow.Proofs.NumberCells
import DecisionFlow.Proofs.Numerals
import DecisionFlow.Proofs.Observation
import DecisionFlow.Proofs.Path
import DecisionFlow.Proofs.PathLaws
import DecisionFlow.Proofs.Reach
import DecisionFlow.Proofs.Registries
import DecisionFlow.Proofs.Replacing
import DecisionFlow.Proofs.Rereading
import DecisionFlow.Proofs.Resolution
import DecisionFlow.Proofs.Results
import DecisionFlow.Proofs.Retagging
import DecisionFlow.Proofs.Shapes
import DecisionFlow.Proofs.Shelves
import DecisionFlow.Proofs.Snapshots
import DecisionFlow.Proofs.Switches
import DecisionFlow.Proofs.Tags
import DecisionFlow.Proofs.Trace
import DecisionFlow.Proofs.Walk
import DecisionFlow.Proofs.WellFormed
import DecisionFlow.Proofs.Words
import DecisionFlow.Proofs.Writing
import DecisionFlow.Report
import DecisionFlow.Settings
import DecisionFlow.Source.Basic
import DecisionFlow.Source.Callback
import DecisionFlow.Source.Folder
import DecisionFlow.Source.Shelf
import DecisionFlow.Text.Blank
import DecisionFlow.Text.CellWidth
import DecisionFlow.Text.Color
import DecisionFlow.Text.Digit
import DecisionFlow.Text.Emoji
import DecisionFlow.Text.EmojiNames
import DecisionFlow.Text.Grid
import DecisionFlow.Text.LowerCase
import DecisionFlow.Text.Markup
import DecisionFlow.Text.Quoted
import DecisionFlow.Text.Segment
import DecisionFlow.Text.Style
import DecisionFlow.Text.Utf8
import DecisionFlow.Text.Visible
import DecisionFlow.Text.Word
import DecisionFlow.Text.Wrapping
import DecisionFlow.Value.Basic
import DecisionFlow.Value.Coercion
import DecisionFlow.Value.Equality
import DecisionFlow.Value.Path
import DecisionFlow.Proofs.Commands
