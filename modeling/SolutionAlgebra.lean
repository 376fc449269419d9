import SolutionAlgebra.Aggregation
import SolutionAlgebra.Builtin.Apply
import SolutionAlgebra.Builtin.Argument
import SolutionAlgebra.Builtin.Basic
import SolutionAlgebra.Calendar.Moment
import SolutionAlgebra.Calendar.Reader
import SolutionAlgebra.CommandLine.Invocation
import SolutionAlgebra.CommandLine.Run
import SolutionAlgebra.Compiled
import SolutionAlgebra.Decimal.Binary64
import SolutionAlgebra.Decimal.Notation
import SolutionAlgebra.Digest
import SolutionAlgebra.Engine
import SolutionAlgebra.Entries
import SolutionAlgebra.Expression.Basic
import SolutionAlgebra.Expression.Compile
import SolutionAlgebra.Expression.Json
import SolutionAlgebra.Iri
import SolutionAlgebra.Json
import SolutionAlgebra.Json.Token
import SolutionAlgebra.LanguageTag
import SolutionAlgebra.Literal.Basic
import SolutionAlgebra.Literal.NumericType
import SolutionAlgebra.Literal.Operations
import SolutionAlgebra.Main
import SolutionAlgebra.Octets
import SolutionAlgebra.Operator.Basic
import SolutionAlgebra.Operator.Batches
import SolutionAlgebra.Operator.Combinators
import SolutionAlgebra.Pattern.Bracket
import SolutionAlgebra.Pattern.ClassName
import SolutionAlgebra.Pattern.Escape
import SolutionAlgebra.Pattern.Flags
import SolutionAlgebra.Pattern.Node
import SolutionAlgebra.Pattern.Program
import SolutionAlgebra.Pattern.Reader
import SolutionAlgebra.Pattern.Replacement
import SolutionAlgebra.Pattern.Search
import SolutionAlgebra.Plan
import SolutionAlgebra.Proofs.Aggregation.Extremes
import SolutionAlgebra.Proofs.Aggregation.Sums
import SolutionAlgebra.Proofs.Builtin.Alike
import SolutionAlgebra.Proofs.Builtin.Answers
import SolutionAlgebra.Proofs.Builtin.Arguments
import SolutionAlgebra.Proofs.Builtin.Comparisons
import SolutionAlgebra.Proofs.Builtin.Identity
import SolutionAlgebra.Proofs.Builtin.Integers
import SolutionAlgebra.Proofs.Builtin.Patterns
import SolutionAlgebra.Proofs.Builtin.Rounding
import SolutionAlgebra.Proofs.Builtin.Strings
import SolutionAlgebra.Proofs.Calendar.Civil
import SolutionAlgebra.Proofs.Calendar.Durations
import SolutionAlgebra.Proofs.Calendar.Offset
import SolutionAlgebra.Proofs.Calendar.Printer
import SolutionAlgebra.Proofs.Calendar.Zones
import SolutionAlgebra.Proofs.Compiled.Correspondence
import SolutionAlgebra.Proofs.Compiled.Faults
import SolutionAlgebra.Proofs.Compiled.Laziness
import SolutionAlgebra.Proofs.Compiled.Terms
import SolutionAlgebra.Proofs.Decimal.Binary64
import SolutionAlgebra.Proofs.Decimal.Counts
import SolutionAlgebra.Proofs.Decimal.Digits
import SolutionAlgebra.Proofs.Decimal.Forms
import SolutionAlgebra.Proofs.Decimal.Grid
import SolutionAlgebra.Proofs.Decimal.Halves
import SolutionAlgebra.Proofs.Decimal.Integers
import SolutionAlgebra.Proofs.Decimal.Nearest
import SolutionAlgebra.Proofs.Decimal.Notation
import SolutionAlgebra.Proofs.Decimal.Operations
import SolutionAlgebra.Proofs.Decimal.Order
import SolutionAlgebra.Proofs.Decimal.Rounding
import SolutionAlgebra.Proofs.Decimal.Shortest
import SolutionAlgebra.Proofs.Decimal.Value
import SolutionAlgebra.Proofs.Decimal.WholeNumbers
import SolutionAlgebra.Proofs.Engine.Reordering
import SolutionAlgebra.Proofs.Engine.Runs
import SolutionAlgebra.Proofs.Entries
import SolutionAlgebra.Proofs.Expression.Aggregates
import SolutionAlgebra.Proofs.Expression.Arithmetic
import SolutionAlgebra.Proofs.Expression.Json
import SolutionAlgebra.Proofs.Expression.Membership
import SolutionAlgebra.Proofs.Expression.Mentions
import SolutionAlgebra.Proofs.Expression.Nodes
import SolutionAlgebra.Proofs.Expression.Reads
import SolutionAlgebra.Proofs.Expression.Resolution
import SolutionAlgebra.Proofs.Expression.Substitution
import SolutionAlgebra.Proofs.Fallible
import SolutionAlgebra.Proofs.Grouping.Aggregates
import SolutionAlgebra.Proofs.Grouping.Faults
import SolutionAlgebra.Proofs.Grouping.Groups
import SolutionAlgebra.Proofs.Grouping.Key
import SolutionAlgebra.Proofs.Grouping.Overlap
import SolutionAlgebra.Proofs.Grouping.Partition
import SolutionAlgebra.Proofs.Iri.Characters
import SolutionAlgebra.Proofs.Json.ReadBack
import SolutionAlgebra.Proofs.Json.Tokens
import SolutionAlgebra.Proofs.LanguageTag.Characters
import SolutionAlgebra.Proofs.LanguageTag.Ranges
import SolutionAlgebra.Proofs.Literal.Computed
import SolutionAlgebra.Proofs.Literal.Forms
import SolutionAlgebra.Proofs.Literal.Integers
import SolutionAlgebra.Proofs.Literal.Moments
import SolutionAlgebra.Proofs.Literal.NumericType
import SolutionAlgebra.Proofs.Literal.Order
import SolutionAlgebra.Proofs.Literal.Promotion
import SolutionAlgebra.Proofs.Literal.Strings
import SolutionAlgebra.Proofs.Octets.Characters
import SolutionAlgebra.Proofs.Octets.Percent
import SolutionAlgebra.Proofs.Operator.Calls
import SolutionAlgebra.Proofs.Operator.Combinators
import SolutionAlgebra.Proofs.Operator.Events
import SolutionAlgebra.Proofs.Pattern.Occurrences
import SolutionAlgebra.Proofs.Pattern.Quotation
import SolutionAlgebra.Proofs.Pattern.Straight
import SolutionAlgebra.Proofs.Plan.Calls
import SolutionAlgebra.Proofs.Plan.Denotation
import SolutionAlgebra.Proofs.Plan.Events
import SolutionAlgebra.Proofs.Plan.Groups
import SolutionAlgebra.Proofs.Solution.Algebra
import SolutionAlgebra.Proofs.Solution.History
import SolutionAlgebra.Proofs.Solution.Payload
import SolutionAlgebra.Proofs.Term.Equality
import SolutionAlgebra.Proofs.Term.Genus
import SolutionAlgebra.Proofs.Term.Interning
import SolutionAlgebra.Proofs.Term.Order
import SolutionAlgebra.Proofs.Term.PrefixedNames
import SolutionAlgebra.Proofs.Term.Prefixes
import SolutionAlgebra.Proofs.Term.Quotation
import SolutionAlgebra.Proofs.Term.ReadBack
import SolutionAlgebra.Proofs.Term.VariableTable
import SolutionAlgebra.Proofs.Term.Variables
import SolutionAlgebra.Proofs.Text.Forms
import SolutionAlgebra.Proofs.Text.Search
import SolutionAlgebra.Settings
import SolutionAlgebra.Solution
import SolutionAlgebra.Term.Basic
import SolutionAlgebra.Term.Parser
import SolutionAlgebra.Term.Prefixes
import SolutionAlgebra.Term.Variable
import SolutionAlgebra.Text.Basic
import SolutionAlgebra.Text.Case
import SolutionAlgebra.Text.CodePoints
import SolutionAlgebra.Text.Quoted
import SolutionAlgebra.Unicode.Category
import SolutionAlgebra.Unicode.Folding
import SolutionAlgebra.Unicode.Property
import SolutionAlgebra.Unicode.Script
import SolutionAlgebra.Value
import SolutionAlgebra.Vocabulary
import SolutionAlgebra.Yaml.Cursor
import SolutionAlgebra.Yaml.Layout
import SolutionAlgebra.Yaml.Node
import SolutionAlgebra.Yaml.Scalar
import SolutionAlgebra.Yaml.Tag
