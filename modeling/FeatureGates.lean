import FeatureGates.Adapter.Basic
import FeatureGates.Adapter.Read
import FeatureGates.Adapter.Scope
import FeatureGates.Adapter.Write
import FeatureGates.Expression.Build
import FeatureGates.Expression.Evaluate
import FeatureGates.Expression.Node
import FeatureGates.Expression.Operator
import FeatureGates.Expression.Registry
import FeatureGates.Expression.Rollout
import FeatureGates.Failure
import FeatureGates.FlagSet.Action
import FeatureGates.FlagSet.Basic
import FeatureGates.FlagSet.Check
import FeatureGates.FlagSet.Write
import FeatureGates.Gate.Basic
import FeatureGates.Gate.Check
import FeatureGates.Gate.NameSet
import FeatureGates.Gate.Thing
import FeatureGates.Gate.Values
import FeatureGates.Instrumentation.Event
import FeatureGates.Instrumentation.Observe
import FeatureGates.Json.Reader
import FeatureGates.Json.Token
import FeatureGates.Number.Basic
import FeatureGates.Number.Binary64
import FeatureGates.Number.Rounding
import FeatureGates.Number.Shortest
import FeatureGates.Proofs.Actions
import FeatureGates.Proofs.Bare
import FeatureGates.Proofs.Catalog
import FeatureGates.Proofs.Cells
import FeatureGates.Proofs.Changes
import FeatureGates.Proofs.Chronicle
import FeatureGates.Proofs.Coherence
import FeatureGates.Proofs.CommonText
import FeatureGates.Proofs.ComparableForms
import FeatureGates.Proofs.Comparing
import FeatureGates.Proofs.Connectives
import FeatureGates.Proofs.Consulting
import FeatureGates.Proofs.Decimal
import FeatureGates.Proofs.DecimalNumerals
import FeatureGates.Proofs.Decisions
import FeatureGates.Proofs.Decoding
import FeatureGates.Proofs.Dependence
import FeatureGates.Proofs.Digits
import FeatureGates.Proofs.DirectUse
import FeatureGates.Proofs.DualWriting
import FeatureGates.Proofs.Editing
import FeatureGates.Proofs.Effects
import FeatureGates.Proofs.Extending
import FeatureGates.Proofs.FailClosed
import FeatureGates.Proofs.FailedWrites
import FeatureGates.Proofs.Filing
import FeatureGates.Proofs.Following
import FeatureGates.Proofs.Grammar
import FeatureGates.Proofs.Instants
import FeatureGates.Proofs.IntegerNumerals
import FeatureGates.Proofs.IsoTrailing
import FeatureGates.Proofs.JsonText
import FeatureGates.Proofs.Keeping
import FeatureGates.Proofs.Lasting
import FeatureGates.Proofs.Layout
import FeatureGates.Proofs.Limiting
import FeatureGates.Proofs.Literals
import FeatureGates.Proofs.Loading
import FeatureGates.Proofs.Memoizing
import FeatureGates.Proofs.Merging
import FeatureGates.Proofs.Mirroring
import FeatureGates.Proofs.NumberText
import FeatureGates.Proofs.NumericLiterals
import FeatureGates.Proofs.Oblivious
import FeatureGates.Proofs.Observing
import FeatureGates.Proofs.Order
import FeatureGates.Proofs.Outages
import FeatureGates.Proofs.Oversize
import FeatureGates.Proofs.PartialOutage
import FeatureGates.Proofs.PercentageRange
import FeatureGates.Proofs.Percentages
import FeatureGates.Proofs.PrintedValues
import FeatureGates.Proofs.Questions
import FeatureGates.Proofs.Readability
import FeatureGates.Proofs.Reference
import FeatureGates.Proofs.Refinement
import FeatureGates.Proofs.Representation
import FeatureGates.Proofs.Respecting
import FeatureGates.Proofs.Robustness
import FeatureGates.Proofs.Rollouts
import FeatureGates.Proofs.RoundTrips
import FeatureGates.Proofs.Rounding
import FeatureGates.Proofs.Routing
import FeatureGates.Proofs.Rules
import FeatureGates.Proofs.Serving
import FeatureGates.Proofs.SettingsFaults
import FeatureGates.Proofs.Shares
import FeatureGates.Proofs.ShortValues
import FeatureGates.Proofs.Signs
import FeatureGates.Proofs.Stack
import FeatureGates.Proofs.StoredTrees
import FeatureGates.Proofs.TextReading
import FeatureGates.Proofs.Timestamps
import FeatureGates.Proofs.TreeEquality
import FeatureGates.Proofs.Trees
import FeatureGates.Proofs.Usage
import FeatureGates.Proofs.WholeQuotients
import FeatureGates.Proofs.WholeSeconds
import FeatureGates.Settings.Basic
import FeatureGates.Settings.Load
import FeatureGates.Settings.Logging
import FeatureGates.Settings.Merge
import FeatureGates.Settings.Validate
import FeatureGates.Store.Cache
import FeatureGates.Store.Cell
import FeatureGates.Store.Operation
import FeatureGates.Store.Records
import FeatureGates.Surroundings
import FeatureGates.Table
import FeatureGates.Text.Blank
import FeatureGates.Text.Casing
import FeatureGates.Text.CodePoints
import FeatureGates.Text.Digit
import FeatureGates.Text.Numeral
import FeatureGates.Text.Printable
import FeatureGates.Text.Quoted
import FeatureGates.Time.Calendar
import FeatureGates.Time.Iso
import FeatureGates.Time.Mail
import FeatureGates.Time.Timestamp
import FeatureGates.Value.Basic
import FeatureGates.Value.Coercion
import FeatureGates.Value.Equality
import FeatureGates.Value.Order
import FeatureGates.Value.Percentage
import FeatureGates.Value.Scalar
import FeatureGates.Value.Written
import FeatureGates.World
import FeatureGates.Yaml.Quoted
import FeatureGates.Yaml.Reader
import FeatureGates.Yaml.Scalar
import FeatureGates.Yaml.Token
import FeatureGates.Yaml.Tree
