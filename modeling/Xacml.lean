import Xacml.Text.Blank
import Xacml.Text.Letter
import Xacml.Json.Basic
import Xacml.Json.Reader
import Xacml.Json.Record
import Xacml.Json.Writer
import Xacml.Text.Escape
import Xacml.Double.Basic
import Xacml.Double.Lexical
import Xacml.Binary.Base64
import Xacml.Binary.Hex
import Xacml.Name.Distinguished
import Xacml.Name.Mail
import Xacml.Network.Host
import Xacml.Network.Address
import Xacml.Temporal.Calendar
import Xacml.Temporal.Date
import Xacml.Temporal.DateTime
import Xacml.DataType
import Xacml.Value.Bag
import Xacml.Regex.Basic
import Xacml.Regex.Parser
import Xacml.Version.Basic
import Xacml.Version.Pattern
import Xacml.Decision
import Xacml.Evaluation.Datum
import Xacml.Function.Arithmetic
import Xacml.Function.Bag
import Xacml.Function.Comparison
import Xacml.Function.Conversion
import Xacml.Function.Matching
import Xacml.Function.Text
import Xacml.Function.Basic
import Xacml.Function.HigherOrder
import Xacml.Attribute.Query
import Xacml.Function.Catalog
import Xacml.Request.Basic
import Xacml.Value.Json
import Xacml.Combining.Algorithm
import Xacml.Expr.Basic
import Xacml.Policy.Basic
import Xacml.Result.Basic
import Xacml.Attribute.Facade
import Xacml.Combining.Combine
import Xacml.Expr.Evaluation
import Xacml.Target.Matching
import Xacml.Evaluation.Obligation
import Xacml.Evaluation.Rule
import Xacml.Evaluation.Tree
import Xacml.Config
import Xacml.Registry
import Xacml.Document.Expr
import Xacml.Document.Policy
import Xacml.Load.Error
import Xacml.Load.Expr
import Xacml.Load.Policy
import Xacml.DecisionPoint
import Xacml.Normal.Expr
import Xacml.Normal.Policy
import Xacml.Result.Json
import Xacml.CommandLine.Command
import Xacml.CommandLine.ExitCode
import Xacml.CommandLine.Run
import Xacml.Main
import Xacml.Proofs.Combining.Resolution
import Xacml.Proofs.Combining.Contributors
import Xacml.Proofs.Evaluation.Outcome
import Xacml.Proofs.Evaluation.Bearers
import Xacml.Proofs.Evaluation.Simulation
import Xacml.Proofs.Evaluation.Dependence
import Xacml.Proofs.Evaluation.Inlining
import Xacml.Proofs.Evaluation.Openings
import Xacml.Proofs.Requests.Individual
import Xacml.Proofs.Typing.Ending
import Xacml.Proofs.Typing.Strict
import Xacml.Proofs.Typing.Call
import Xacml.Proofs.Typing.Accepted
import Xacml.Proofs.Typing.Safety
import Xacml.Proofs.Lexical.Text
import Xacml.Proofs.Lexical.Octets
import Xacml.Proofs.Lexical.Runs
import Xacml.Proofs.Lexical.Numeral
import Xacml.Proofs.Lexical.DurationForm
import Xacml.Proofs.Lexical.Duration
import Xacml.Proofs.Lexical.Ip
import Xacml.Proofs.Lexical.Network
import Xacml.Proofs.Lexical.Calendar
import Xacml.Proofs.Lexical.Field
import Xacml.Proofs.Lexical.Zone
import Xacml.Proofs.Lexical.Temporal
import Xacml.Proofs.Lexical.Canonical
import Xacml.Proofs.Normal.Literals
import Xacml.Proofs.Normal.Names
import Xacml.Proofs.Normal.Targets
import Xacml.Proofs.Normal.Expressions
import Xacml.Proofs.Normal.Policies
import Xacml.Proofs.Normal.Trees
import Xacml.Proofs.Normal.FixedPoint
import Xacml.Proofs.Normal.Decisions
import Xacml.Proofs.Requests.Combined
import Xacml.Proofs.Combining.Nesting
import Xacml.Proofs.Evaluation.Editions
import Xacml.Proofs.Kleene
import Xacml.Proofs.Target.Truth
import Xacml.Proofs.Json.Text
import Xacml.Proofs.Json.Record
import Xacml.Proofs.Document.Parts
import Xacml.Proofs.Document.Reading
import Xacml.Proofs.Choices
import Xacml.Proofs.Target.Layouts
import Xacml.Proofs.Function.Connectives
import Xacml.Proofs.Function.Quantifiers
import Xacml.Proofs.Load.Conversion
import Xacml.Proofs.Load.Stack
import Xacml.Proofs.Load.References
import Xacml.Proofs.Load.Variables
import Xacml.Proofs.Version.Order
import Xacml.Proofs.Version.Bounds
import Xacml.Proofs.InTurn
import Xacml.Proofs.Combining.InTurn
import Xacml.Proofs.Function.Laziness
import Xacml.Proofs.Value.Union
import Xacml.Proofs.Function.Images
import Xacml.Proofs.Policy.Latest
import Xacml.Proofs.Function.Comparisons
import Xacml.Proofs.Function.Sets
import Xacml.Proofs.Function.Integers
import Xacml.Proofs.Value.Durations
import Xacml.Proofs.Lexical.NetworkForm
import Xacml.Proofs.Lexical.Expressible
import Xacml.Proofs.Function.Times
import Xacml.Proofs.Lexical.FieldForm
import Xacml.Proofs.Lexical.ZoneForm
import Xacml.Proofs.Lexical.IntegerForm
import Xacml.Proofs.Lexical.Zoned
import Xacml.Proofs.Attribute.Sources
import Xacml.Proofs.Load.Layouts
import Xacml.Proofs.Value.Signs
import Xacml.Proofs.Function.TimeRanges
import Xacml.Proofs.Lexical.LetterCase
import Xacml.Proofs.Lexical.NameForm
import Xacml.Proofs.Function.NameMatching
