import ScriptAudit.Analysis
import ScriptAudit.Clock
import ScriptAudit.Command.Request
import ScriptAudit.Command.Run
import ScriptAudit.Command.Switch
import ScriptAudit.Command.Usage
import ScriptAudit.Command.Word
import ScriptAudit.Disk
import ScriptAudit.Files.Basic
import ScriptAudit.Files.Content
import ScriptAudit.Finding
import ScriptAudit.JavaScript.Cursor
import ScriptAudit.JavaScript.Expression
import ScriptAudit.JavaScript.Function
import ScriptAudit.JavaScript.Grammar
import ScriptAudit.JavaScript.Lexeme
import ScriptAudit.JavaScript.Markup
import ScriptAudit.JavaScript.Operand
import ScriptAudit.JavaScript.Pattern
import ScriptAudit.JavaScript.Reader
import ScriptAudit.JavaScript.Statement
import ScriptAudit.JavaScript.Symbol
import ScriptAudit.JavaScript.Trivia
import ScriptAudit.Json.Basic
import ScriptAudit.Location
import ScriptAudit.Log.Logger
import ScriptAudit.Log.Record
import ScriptAudit.Main
import ScriptAudit.Node.Basic
import ScriptAudit.Node.Kind
import ScriptAudit.Node.OfParseTree
import ScriptAudit.Node.Walk
import ScriptAudit.Number.Arithmetic
import ScriptAudit.Number.Double
import ScriptAudit.Number.Fixed
import ScriptAudit.Number.Layout
import ScriptAudit.Number.Literal
import ScriptAudit.Number.Numeral
import ScriptAudit.Number.Rounding
import ScriptAudit.Number.Shortest
import ScriptAudit.Number.Text
import ScriptAudit.ParseTree.Basic
import ScriptAudit.ParseTree.FirstError
import ScriptAudit.Path.Basic
import ScriptAudit.Path.Glob
import ScriptAudit.Path.Selection
import ScriptAudit.Proofs.ByteColumns
import ScriptAudit.Proofs.Code
import ScriptAudit.Proofs.CodeRows
import ScriptAudit.Proofs.Collection
import ScriptAudit.Proofs.Comments
import ScriptAudit.Proofs.Construction
import ScriptAudit.Proofs.Conversion
import ScriptAudit.Proofs.DisableOptions
import ScriptAudit.Proofs.DisabledRules
import ScriptAudit.Proofs.DoubleRange
import ScriptAudit.Proofs.Exclusions
import ScriptAudit.Proofs.ExpressionTrees
import ScriptAudit.Proofs.FewestDigits
import ScriptAudit.Proofs.FindingLines
import ScriptAudit.Proofs.FirstErrors
import ScriptAudit.Proofs.JsonGrammar
import ScriptAudit.Proofs.JsonReports
import ScriptAudit.Proofs.LaxerSettings
import ScriptAudit.Proofs.LineBreaks
import ScriptAudit.Proofs.Locations
import ScriptAudit.Proofs.LoggerRuns
import ScriptAudit.Proofs.NearestDoubles
import ScriptAudit.Proofs.NullAccesses
import ScriptAudit.Proofs.NumberLexemes
import ScriptAudit.Proofs.NumberText
import ScriptAudit.Proofs.Numerals
import ScriptAudit.Proofs.NumericLiterals
import ScriptAudit.Proofs.OperandTrees
import ScriptAudit.Proofs.Origins
import ScriptAudit.Proofs.Parentheses
import ScriptAudit.Proofs.Parsing
import ScriptAudit.Proofs.Patterns
import ScriptAudit.Proofs.ReadTrees
import ScriptAudit.Proofs.Readers
import ScriptAudit.Proofs.ReportCounts
import ScriptAudit.Proofs.RuleCounts
import ScriptAudit.Proofs.RuleIndependence
import ScriptAudit.Proofs.RuleVerdicts
import ScriptAudit.Proofs.ScanReports
import ScriptAudit.Proofs.ScriptCode
import ScriptAudit.Proofs.ScriptNumbers
import ScriptAudit.Proofs.SettingsFaults
import ScriptAudit.Proofs.SettingsSearch
import ScriptAudit.Proofs.SettingsValues
import ScriptAudit.Proofs.ShortestDecimals
import ScriptAudit.Proofs.StatementTrees
import ScriptAudit.Proofs.SuppressionMarks
import ScriptAudit.Proofs.TextPlaces
import ScriptAudit.Proofs.Utf8
import ScriptAudit.Report.Basic
import ScriptAudit.Report.Counts
import ScriptAudit.Report.Json
import ScriptAudit.Report.Plain
import ScriptAudit.Report.Terminal
import ScriptAudit.Rule.Basic
import ScriptAudit.Rule.Catalog
import ScriptAudit.Scan.Collect
import ScriptAudit.Scan.Source
import ScriptAudit.Scan.Target
import ScriptAudit.Script
import ScriptAudit.Settings.Basic
import ScriptAudit.Settings.Load
import ScriptAudit.Suppression
import ScriptAudit.Terminal.Line
import ScriptAudit.Terminal.Markup
import ScriptAudit.Terminal.Panel
import ScriptAudit.Text.Blank
import ScriptAudit.Text.Case
import ScriptAudit.Text.CaseTable
import ScriptAudit.Text.Digit
import ScriptAudit.Text.Hex
import ScriptAudit.Text.Lines
import ScriptAudit.Text.Printable
import ScriptAudit.Text.Quoted
import ScriptAudit.Text.Ranges
import ScriptAudit.Text.Search
import ScriptAudit.Text.Utf8
import ScriptAudit.Text.Width
import ScriptAudit.Text.Word
import ScriptAudit.Yaml.Base64
import ScriptAudit.Yaml.Cursor
import ScriptAudit.Yaml.Node
import ScriptAudit.Yaml.Scalar
import ScriptAudit.Yaml.ScalarText
import ScriptAudit.Yaml.Shown
import ScriptAudit.Yaml.Time
import ScriptAudit.Yaml.Token
import ScriptAudit.Yaml.Value
