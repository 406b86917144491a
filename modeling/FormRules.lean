import FormRules.Builtin
import FormRules.Builtin.Bound
import FormRules.Builtin.Dependent
import FormRules.Builtin.Format
import FormRules.Builtin.Length
import FormRules.Catalog
import FormRules.CommandLine
import FormRules.Evaluation
import FormRules.Evaluation.Errors
import FormRules.Evaluation.Message
import FormRules.File.Catalog
import FormRules.File.Data
import FormRules.File.Form
import FormRules.FileTree
import FormRules.Files
import FormRules.Form
import FormRules.Json
import FormRules.Json.Number
import FormRules.Json.Reader
import FormRules.Json.Writer
import FormRules.Loading
import FormRules.Log
import FormRules.Log.Filter
import FormRules.Main
import FormRules.Number
import FormRules.Number.Decimal
import FormRules.Number.Rounding
import FormRules.Number.Shortest
import FormRules.Number.Written
import FormRules.OrderedMap
import FormRules.Override
import FormRules.Path
import FormRules.Pattern
import FormRules.Proofs.Builtin
import FormRules.Proofs.Builtin.Bound
import FormRules.Proofs.Builtin.Condition
import FormRules.Proofs.Builtin.Dependent
import FormRules.Proofs.Builtin.Email
import FormRules.Proofs.Builtin.Length
import FormRules.Proofs.Builtin.Presence
import FormRules.Proofs.Builtin.Uuid
import FormRules.Proofs.Catalog
import FormRules.Proofs.Errors
import FormRules.Proofs.Evaluation
import FormRules.Proofs.Evaluation.Exchange
import FormRules.Proofs.Evaluation.Locality
import FormRules.Proofs.Evaluation.Overriding
import FormRules.Proofs.Evaluation.Reference
import FormRules.Proofs.Evaluation.Refusal
import FormRules.Proofs.Evaluation.Registering
import FormRules.Proofs.Evaluation.Sequence
import FormRules.Proofs.Evaluation.Verdict
import FormRules.Proofs.File.Data
import FormRules.Proofs.File.Form
import FormRules.Proofs.Form
import FormRules.Proofs.Form.Edits
import FormRules.Proofs.Form.Reachable
import FormRules.Proofs.Form.Readings
import FormRules.Proofs.Json.Digits
import FormRules.Proofs.Json.Grammar
import FormRules.Proofs.Json.Number
import FormRules.Proofs.Json.Reader
import FormRules.Proofs.Json.RoundTrip
import FormRules.Proofs.Loading
import FormRules.Proofs.Number.Decimal
import FormRules.Proofs.Number.Numeral
import FormRules.Proofs.Number.Rounding
import FormRules.Proofs.OrderedMap
import FormRules.Proofs.Override
import FormRules.Proofs.Pattern
import FormRules.Proofs.Registry
import FormRules.Proofs.Report
import FormRules.Proofs.Report.Lines
import FormRules.Proofs.Rule.Chain
import FormRules.Proofs.Rule.Grouping
import FormRules.Proofs.RuleCache
import FormRules.Proofs.RuleCache.Calls
import FormRules.Proofs.Run
import FormRules.Proofs.Run.Ending
import FormRules.Proofs.Template
import FormRules.Proofs.Text.ByteOrder
import FormRules.Proofs.Text.Case
import FormRules.Proofs.Value
import FormRules.Proofs.Watch.Batch
import FormRules.Proofs.Watch.Follow
import FormRules.Proofs.Watch.Mention
import FormRules.Proofs.Watch.Order
import FormRules.Proofs.Watch.Paths
import FormRules.Proofs.Watch.Readings
import FormRules.Proofs.Watch.Reload
import FormRules.Proofs.Watch.Trace
import FormRules.Registry
import FormRules.Report
import FormRules.Rule.Chain
import FormRules.Rule.RuleSet
import FormRules.Rule.Token
import FormRules.RuleCache
import FormRules.Run
import FormRules.Search
import FormRules.Search.Reader
import FormRules.Settings
import FormRules.Template
import FormRules.Text.Blank
import FormRules.Text.Case
import FormRules.Text.Digit
import FormRules.Text.Hex
import FormRules.Text.Hidden
import FormRules.Text.Quoted
import FormRules.Text.Separated
import FormRules.Text.Word
import FormRules.Toml
import FormRules.Toml.Moment
import FormRules.Toml.Reader
import FormRules.Toml.Scalar
import FormRules.Toml.Shape
import FormRules.Toml.Table
import FormRules.Toml.Text
import FormRules.Tour
import FormRules.Validator
import FormRules.Value
import FormRules.Watch
import FormRules.Watch.Paths
import FormRules.Watch.Reload
