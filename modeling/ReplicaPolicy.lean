import ReplicaPolicy.ActionList.Basic
import ReplicaPolicy.ActionList.Line
import ReplicaPolicy.Age.Cutoff
import ReplicaPolicy.Age.Unit
import ReplicaPolicy.Attribute
import ReplicaPolicy.Calendar.Date
import ReplicaPolicy.Calendar.Instant
import ReplicaPolicy.Calendar.Reader
import ReplicaPolicy.Calendar.Writer
import ReplicaPolicy.CommandLine.Arguments
import ReplicaPolicy.CommandLine.Help
import ReplicaPolicy.CommandLine.Run
import ReplicaPolicy.Condition
import ReplicaPolicy.Config.Basic
import ReplicaPolicy.Config.Build
import ReplicaPolicy.Config.Node
import ReplicaPolicy.Config.Reader
import ReplicaPolicy.Decimal.Binary
import ReplicaPolicy.Decimal.Fixed
import ReplicaPolicy.Decimal.Literal
import ReplicaPolicy.Decimal.Shortest
import ReplicaPolicy.Decision
import ReplicaPolicy.Event
import ReplicaPolicy.Fault
import ReplicaPolicy.Files.Path
import ReplicaPolicy.Glob.Basic
import ReplicaPolicy.Glob.Syntax
import ReplicaPolicy.Inspection
import ReplicaPolicy.Inventory.Basic
import ReplicaPolicy.Inventory.Reader
import ReplicaPolicy.Inventory.Status
import ReplicaPolicy.Inventory.Writer
import ReplicaPolicy.Json.Numeral
import ReplicaPolicy.Json.Reader
import ReplicaPolicy.Json.Value
import ReplicaPolicy.Json.Writer
import ReplicaPolicy.Main
import ReplicaPolicy.Occupancy
import ReplicaPolicy.Predicate
import ReplicaPolicy.Proofs.ActionList.Calls
import ReplicaPolicy.Proofs.ActionList.Conditions
import ReplicaPolicy.Proofs.ActionList.FirstMatch
import ReplicaPolicy.Proofs.ActionList.Joining
import ReplicaPolicy.Proofs.ActionList.Line
import ReplicaPolicy.Proofs.ActionList.Loading
import ReplicaPolicy.Proofs.ActionList.Strictness
import ReplicaPolicy.Proofs.Age.Counting
import ReplicaPolicy.Proofs.Age.Passing
import ReplicaPolicy.Proofs.Calendar.Order
import ReplicaPolicy.Proofs.Calendar.Parts
import ReplicaPolicy.Proofs.Calendar.Spelling
import ReplicaPolicy.Proofs.CommandLine.Documents
import ReplicaPolicy.Proofs.CommandLine.Evaluation
import ReplicaPolicy.Proofs.CommandLine.Lines
import ReplicaPolicy.Proofs.CommandLine.Options
import ReplicaPolicy.Proofs.CommandLine.Printing
import ReplicaPolicy.Proofs.CommandLine.Reports
import ReplicaPolicy.Proofs.Condition.Clauses
import ReplicaPolicy.Proofs.Condition.Comparison
import ReplicaPolicy.Proofs.Condition.Conjunction
import ReplicaPolicy.Proofs.Condition.Grammar
import ReplicaPolicy.Proofs.Condition.Partition
import ReplicaPolicy.Proofs.Condition.Typing
import ReplicaPolicy.Proofs.Condition.Writing
import ReplicaPolicy.Proofs.Config.Ages
import ReplicaPolicy.Proofs.Config.Build
import ReplicaPolicy.Proofs.Config.Joining
import ReplicaPolicy.Proofs.Config.Reasons
import ReplicaPolicy.Proofs.Config.Requirement
import ReplicaPolicy.Proofs.Config.Restating
import ReplicaPolicy.Proofs.Decimal.Order
import ReplicaPolicy.Proofs.Decimal.Quotient
import ReplicaPolicy.Proofs.Decimal.Sign
import ReplicaPolicy.Proofs.Decimal.Whole
import ReplicaPolicy.Proofs.Glob.Body
import ReplicaPolicy.Proofs.Glob.Difference
import ReplicaPolicy.Proofs.Glob.Grammar
import ReplicaPolicy.Proofs.Glob.Parts
import ReplicaPolicy.Proofs.Glob.Plain
import ReplicaPolicy.Proofs.Inventory.FullCopies
import ReplicaPolicy.Proofs.Inventory.Replicas
import ReplicaPolicy.Proofs.Json.Reading
import ReplicaPolicy.Proofs.Occupancy.Cleanup
import ReplicaPolicy.Proofs.Results
import ReplicaPolicy.Proofs.Rule.Idleness
import ReplicaPolicy.Proofs.Rule.Outdated
import ReplicaPolicy.Proofs.Stack.Account
import ReplicaPolicy.Proofs.Stack.Aging
import ReplicaPolicy.Proofs.Stack.Editing
import ReplicaPolicy.Proofs.Stack.Position
import ReplicaPolicy.Proofs.Stack.Removal
import ReplicaPolicy.Proofs.Stack.Separation
import ReplicaPolicy.Proofs.Text.Lines
import ReplicaPolicy.Proofs.Text.OneLine
import ReplicaPolicy.Proofs.Text.Words
import ReplicaPolicy.Rule.Basic
import ReplicaPolicy.Rule.Deletion
import ReplicaPolicy.Rule.Protection
import ReplicaPolicy.Stack
import ReplicaPolicy.Text.Blank
import ReplicaPolicy.Text.Quoted
import ReplicaPolicy.Text.Ranges
import ReplicaPolicy.Text.Word
import ReplicaPolicy.Toml.Reader
import ReplicaPolicy.Toml.Scalar
import ReplicaPolicy.Toml.Table
import ReplicaPolicy.Toml.Text
import ReplicaPolicy.Toml.Value
