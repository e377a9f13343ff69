import Scenario.Action.Basic
import Scenario.Action.Builtin
import Scenario.Action.Query
import Scenario.Command.Answer
import Scenario.Command.Arguments
import Scenario.Condition
import Scenario.Document.Basic
import Scenario.Document.OfJson
import Scenario.Document.OfYaml
import Scenario.Document.Reader
import Scenario.Document.ReportReader
import Scenario.Document.Writer
import Scenario.Double.Basic
import Scenario.Double.Reader
import Scenario.Double.Shortest
import Scenario.Duration
import Scenario.Engine.Attempt
import Scenario.Engine.Basic
import Scenario.Engine.Dispatch
import Scenario.Engine.Loop
import Scenario.Engine.Retry
import Scenario.Extract
import Scenario.Json.Basic
import Scenario.Json.Indented
import Scenario.Json.Number
import Scenario.Json.Path
import Scenario.Json.Printer
import Scenario.Json.Reader
import Scenario.Limits
import Scenario.LoopSpec
import Scenario.Main
import Scenario.Message
import Scenario.OrderedMap
import Scenario.Outcome
import Scenario.Pattern.CharSet
import Scenario.Pattern.Class
import Scenario.Pattern.Escape
import Scenario.Pattern.Library
import Scenario.Pattern.Matching
import Scenario.Pattern.Program
import Scenario.Pattern.PropertyTable
import Scenario.Pattern.Reader
import Scenario.Pattern.Size
import Scenario.Pattern.Syntax
import Scenario.Report
import Scenario.Report.Text
import Scenario.Run
import Scenario.Store.Basic
import Scenario.Store.Diagnosis
import Scenario.Store.Reference
import Scenario.Store.Substitution
import Scenario.Suggestion
import Scenario.Table.Basic
import Scenario.Table.Csv
import Scenario.Table.Selection
import Scenario.TestCase
import Scenario.Text.Ascii
import Scenario.Text.Blank
import Scenario.Text.Case
import Scenario.Text.CaseTable
import Scenario.Text.Integer
import Scenario.Text.PrintableTable
import Scenario.Text.Quoted
import Scenario.Text.Search
import Scenario.Text.Timestamp
import Scenario.Validation
import Scenario.Yaml.Block
import Scenario.Yaml.Gap
import Scenario.Yaml.Node
import Scenario.Yaml.Plain
import Scenario.Yaml.Quoted
import Scenario.Yaml.Source
import Scenario.Yaml.Tag
import Scenario.Yaml.Token
import Scenario.Yaml.Value
import Scenario.Proofs.Dispatch
import Scenario.Proofs.Fault
import Scenario.Proofs.Verdict
import Scenario.Proofs.Attempts
import Scenario.Proofs.LoopVariables
import Scenario.Proofs.Position
import Scenario.Proofs.Unrolling
import Scenario.Proofs.WhileLoop
import Scenario.Proofs.Phase
import Scenario.Proofs.Occurrence
import Scenario.Proofs.Reference
import Scenario.Proofs.Comparison
import Scenario.Proofs.Operand
import Scenario.Proofs.Cut
import Scenario.Proofs.FirstError
import Scenario.Proofs.Retrying
import Scenario.Proofs.Origin
import Scenario.Proofs.Accepted
import Scenario.Proofs.Grouping
import Scenario.Proofs.Writing
import Scenario.Proofs.RetryScope
import Scenario.Proofs.Pause
import Scenario.Proofs.Diagnosis
import Scenario.Proofs.Resolution
import Scenario.Proofs.Substitution
import Scenario.Proofs.Assignment
import Scenario.Proofs.Fields
import Scenario.Proofs.Selection
import Scenario.Proofs.TableForm
import Scenario.Proofs.Completion
import Scenario.Proofs.Complement
import Scenario.Proofs.LoopText
import Scenario.Proofs.LoopElements
import Scenario.Proofs.Events
import Scenario.Proofs.EventRows
import Scenario.Proofs.RowNames
import Scenario.Proofs.FaultContext
import Scenario.Proofs.LoopPosition
import Scenario.Proofs.FaultDetails
import Scenario.Proofs.Templates
import Scenario.Proofs.Query
import Scenario.Proofs.Walk
import Scenario.Proofs.Backoff
import Scenario.Proofs.Declaration
import Scenario.Proofs.GroupRecord
import Scenario.Proofs.ByteOrder
import Scenario.Proofs.EditDistance
import Scenario.Proofs.LowerCase
import Scenario.Proofs.Suggestion
