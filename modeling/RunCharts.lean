import RunCharts.Axis
import RunCharts.Binary64.Basic
import RunCharts.Binary64.Hundredths
import RunCharts.Calendar.Date
import RunCharts.Calendar.DateTime
import RunCharts.Calendar.Iso
import RunCharts.Calendar.Lexeme
import RunCharts.Calendar.Prose
import RunCharts.Calendar.Reading
import RunCharts.Calendar.Shorthand
import RunCharts.Calendar.Vocabulary
import RunCharts.CommandLine
import RunCharts.Condition
import RunCharts.Csv
import RunCharts.Decimal.Basic
import RunCharts.Decimal.Numeral
import RunCharts.Decimal.Shortest
import RunCharts.Decimal.Style
import RunCharts.Document.Basic
import RunCharts.Document.Display
import RunCharts.Document.File
import RunCharts.Document.Json
import RunCharts.Entries
import RunCharts.Fault
import RunCharts.Json.Basic
import RunCharts.Json.Printer
import RunCharts.Json.Reader
import RunCharts.Log
import RunCharts.Main
import RunCharts.Measurement.Reading
import RunCharts.Measurement.Series
import RunCharts.Measurement.Value
import RunCharts.Metric.Basic
import RunCharts.Metric.Collection
import RunCharts.Proofs.Axis.Exact
import RunCharts.Proofs.Binary64.Hundredths
import RunCharts.Proofs.Binary64.Order
import RunCharts.Proofs.Binary64.Rounding
import RunCharts.Proofs.Calendar.Instants
import RunCharts.Proofs.Calendar.Milliseconds
import RunCharts.Proofs.Calendar.Printed
import RunCharts.Proofs.Calendar.Written
import RunCharts.Proofs.Condition.Alignment
import RunCharts.Proofs.Condition.Joined
import RunCharts.Proofs.Condition.Reading
import RunCharts.Proofs.Condition.Tokens
import RunCharts.Proofs.Csv.Reader
import RunCharts.Proofs.Decimal.Digits
import RunCharts.Proofs.Decimal.Value
import RunCharts.Proofs.Document.Faults
import RunCharts.Proofs.Document.Json
import RunCharts.Proofs.Entries
import RunCharts.Proofs.Json.Ascii
import RunCharts.Proofs.Json.Complete
import RunCharts.Proofs.Json.Derived
import RunCharts.Proofs.Json.Grammar
import RunCharts.Proofs.Json.KeyOrder
import RunCharts.Proofs.Json.Leaves
import RunCharts.Proofs.Json.Lossless
import RunCharts.Proofs.Json.Numerals
import RunCharts.Proofs.Json.Places
import RunCharts.Proofs.Json.Refused
import RunCharts.Proofs.Json.Reread
import RunCharts.Proofs.Json.RoundTrip
import RunCharts.Proofs.Json.Rules
import RunCharts.Proofs.Json.Strings
import RunCharts.Proofs.Json.Trees
import RunCharts.Proofs.Json.Words
import RunCharts.Proofs.Measurement.Decoding
import RunCharts.Proofs.Measurement.Displays
import RunCharts.Proofs.Measurement.Faults
import RunCharts.Proofs.Measurement.Inlined
import RunCharts.Proofs.Measurement.Nesting
import RunCharts.Proofs.Measurement.Numbers
import RunCharts.Proofs.Measurement.Readings
import RunCharts.Proofs.Metric.Axis
import RunCharts.Proofs.Metric.Collection
import RunCharts.Proofs.Metric.Cover
import RunCharts.Proofs.Metric.Guidelines
import RunCharts.Proofs.Metric.Keys
import RunCharts.Proofs.Metric.Lenient
import RunCharts.Proofs.Metric.Order
import RunCharts.Proofs.Metric.Parts
import RunCharts.Proofs.Metric.Remeasured
import RunCharts.Proofs.Provider.Dispatch
import RunCharts.Proofs.Provider.Faults
import RunCharts.Proofs.Report.Agreement
import RunCharts.Proofs.Report.Commands
import RunCharts.Proofs.Report.Folder
import RunCharts.Proofs.Report.Leftovers
import RunCharts.Proofs.Report.Numbers
import RunCharts.Proofs.Report.Order
import RunCharts.Proofs.Report.Times
import RunCharts.Proofs.Report.Trees
import RunCharts.Proofs.Run.Faults
import RunCharts.Proofs.Run.Json
import RunCharts.Proofs.Run.Order
import RunCharts.Proofs.Run.Outcome
import RunCharts.Proofs.Run.Site
import RunCharts.Proofs.Series.Bounds
import RunCharts.Proofs.Series.Composition
import RunCharts.Proofs.Series.Leniency
import RunCharts.Proofs.Series.Rows
import RunCharts.Proofs.Summary.Outcome
import RunCharts.Proofs.Table.Lossless
import RunCharts.Proofs.Table.Stem
import RunCharts.Proofs.Template.Cuts
import RunCharts.Proofs.Template.Filling
import RunCharts.Proofs.Template.Seams
import RunCharts.Proofs.Text.Halves
import RunCharts.Proofs.Text.Order
import RunCharts.Proofs.Traversal
import RunCharts.Proofs.Yaml.Moments
import RunCharts.Proofs.Yaml.Stamps
import RunCharts.Provider.Accessor
import RunCharts.Provider.Basic
import RunCharts.Provider.Queries
import RunCharts.Report
import RunCharts.Run.Basic
import RunCharts.Run.Document
import RunCharts.Run.File
import RunCharts.Settings.Basic
import RunCharts.Settings.Document
import RunCharts.Settings.File
import RunCharts.Settings.Issue
import RunCharts.Status
import RunCharts.Summary
import RunCharts.Table
import RunCharts.Template
import RunCharts.Text.Base64
import RunCharts.Text.Blank
import RunCharts.Text.Casing
import RunCharts.Text.DecimalDigit
import RunCharts.Text.Graphic
import RunCharts.Text.Hex
import RunCharts.Text.Letter
import RunCharts.Text.LowerCase
import RunCharts.Text.Quoted
import RunCharts.Text.Split
import RunCharts.Text.Surrogate
import RunCharts.Timestamp
import RunCharts.Yaml.Block
import RunCharts.Yaml.Cursor
import RunCharts.Yaml.Document
import RunCharts.Yaml.Graph
import RunCharts.Yaml.Merge
import RunCharts.Yaml.Part
import RunCharts.Yaml.Plain
import RunCharts.Yaml.Quoted
import RunCharts.Yaml.Resolve
import RunCharts.Yaml.Scalar
import RunCharts.Yaml.Tag
import RunCharts.Yaml.Token
