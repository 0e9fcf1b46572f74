import IndentLint.About
import IndentLint.Analysis
import IndentLint.Check.Detail
import IndentLint.Check.Diagnostic
import IndentLint.Check.Failure
import IndentLint.Check.Fault
import IndentLint.Check.Plan
import IndentLint.Check.Run
import IndentLint.Check.Sources
import IndentLint.CommandLine.Grammar
import IndentLint.CommandLine.Help
import IndentLint.CommandLine.Request
import IndentLint.CommandLine.Run
import IndentLint.Document.Agree
import IndentLint.Document.Display
import IndentLint.Document.Fault
import IndentLint.Document.Json.Reader
import IndentLint.Document.Json.Writer
import IndentLint.Document.Merge
import IndentLint.Document.Moment
import IndentLint.Document.Unusable
import IndentLint.Document.Value
import IndentLint.Document.Yaml.Building
import IndentLint.Document.Yaml.Cursor
import IndentLint.Document.Yaml.Implicit
import IndentLint.Document.Yaml.Key
import IndentLint.Document.Yaml.Lexeme
import IndentLint.Document.Yaml.Node
import IndentLint.Document.Yaml.Property
import IndentLint.Document.Yaml.Reader
import IndentLint.Document.Yaml.Scalar
import IndentLint.Document.Yaml.Supply
import IndentLint.Document.Yaml.Token
import IndentLint.Document.Yaml.Writer
import IndentLint.Encoding
import IndentLint.Encoding.Stream
import IndentLint.Layout.Tracker
import IndentLint.Layout.Width
import IndentLint.Log
import IndentLint.Main
import IndentLint.Number.Binary64
import IndentLint.Number.Quantity
import IndentLint.Platform
import IndentLint.Render.Console
import IndentLint.Render.Html
import IndentLint.Render.Plain
import IndentLint.Render.Screen
import IndentLint.Report.Assessment
import IndentLint.Report.Basic
import IndentLint.Report.Record
import IndentLint.Session
import IndentLint.Settings.Basic
import IndentLint.Settings.Environment
import IndentLint.Settings.Reserved
import IndentLint.Settings.Store
import IndentLint.Settings.Validation
import IndentLint.Source.Baseline
import IndentLint.Source.Line
import IndentLint.Source.Scan
import IndentLint.Source.Tab
import IndentLint.Storage.Discovery
import IndentLint.Storage.Disk
import IndentLint.Storage.Glob
import IndentLint.Storage.Path
import IndentLint.Text.Base64
import IndentLint.Text.Blank
import IndentLint.Text.Lines
import IndentLint.Text.Lower
import IndentLint.Text.Numeral
import IndentLint.Text.Printable
import IndentLint.Text.Quoted
import IndentLint.Text.Span
import IndentLint.Text.Units
import IndentLint.Text.Word
import IndentLint.Proofs.Source.Scan
import IndentLint.Proofs.Layout.Bounds
import IndentLint.Proofs.Layout.Tracker
import IndentLint.Proofs.Tracking
import IndentLint.Proofs.Report.Runs
import IndentLint.Proofs.Program.Syntax
import IndentLint.Proofs.Program.States
import IndentLint.Proofs.Program.Fitting
import IndentLint.Proofs.Program.Unflagged
import IndentLint.Proofs.Disguise
import IndentLint.Proofs.Except
import IndentLint.Proofs.Source.Expanding
import IndentLint.Proofs.Reindent
import IndentLint.Proofs.Layout.Resync
import IndentLint.Proofs.Appending
import IndentLint.Proofs.Blanks
import IndentLint.Proofs.Layout.Scaling
import IndentLint.Proofs.Source.Tabs
import IndentLint.Proofs.Retabbing
import IndentLint.Proofs.Levels
import IndentLint.Proofs.Annotations
import IndentLint.Proofs.Text.Newlines
import IndentLint.Proofs.Check.Outcomes
import IndentLint.Proofs.Check.Texts
import IndentLint.Proofs.Storage.Matching
import IndentLint.Proofs.Storage.Names
import IndentLint.Proofs.Storage.Walk
import IndentLint.Proofs.Storage.Search
import IndentLint.Proofs.Storage.Discovery
import IndentLint.Proofs.Storage.Growth
import IndentLint.Proofs.Storage.Added
import IndentLint.Proofs.Settings.Validated
import IndentLint.Proofs.Storage.Order
import IndentLint.Proofs.Check.Sources
import IndentLint.Proofs.Check.Targets
import IndentLint.Proofs.Check.Isolation
import IndentLint.Proofs.Source.Clean
import IndentLint.Proofs.Source.Columns
import IndentLint.Proofs.Document.Merging
import IndentLint.Proofs.Document.Overlaying
import IndentLint.Proofs.Settings.Applied
import IndentLint.Proofs.Settings.Precedence
import IndentLint.Proofs.Layout.Reach
import IndentLint.Proofs.Check.Carrying
import IndentLint.Proofs.Settings.Ready
import IndentLint.Proofs.Settings.Judging
import IndentLint.Proofs.Settings.Variables
import IndentLint.Proofs.Settings.Answered
import IndentLint.Proofs.Document.Building
import IndentLint.Proofs.Document.Literals
import IndentLint.Proofs.Document.RoundTrip
import IndentLint.Proofs.Document.Saved
import IndentLint.Proofs.Document.Refusals
import IndentLint.Proofs.Storage.Writing
import IndentLint.Proofs.Settings.Saving
import IndentLint.Proofs.Layout.Depth
import IndentLint.Proofs.Layout.Chains
import IndentLint.Proofs.Layout.Clauses
import IndentLint.Proofs.Source.Noise
import IndentLint.Proofs.Check.Trailing
import IndentLint.Proofs.Layout.Alternatives
import IndentLint.Proofs.Layout.Continuations
import IndentLint.Proofs.Layout.Covering
import IndentLint.Proofs.Layout.Closers
import IndentLint.Proofs.Report.Highlights
import IndentLint.Proofs.Report.Surplus
import IndentLint.Proofs.Check.Summary
import IndentLint.Proofs.Render.Markup
import IndentLint.Proofs.Render.Page
