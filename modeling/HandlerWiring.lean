import HandlerWiring.Command.Basic
import HandlerWiring.Command.Config
import HandlerWiring.Command.Document
import HandlerWiring.Command.Generate
import HandlerWiring.Command.Run
import HandlerWiring.Command.Scan
import HandlerWiring.Command.Validate
import HandlerWiring.CommandLine.Argument
import HandlerWiring.CommandLine.Reader
import HandlerWiring.Decimal.Format
import HandlerWiring.Decimal.Nearest
import HandlerWiring.Decimal.Shortest
import HandlerWiring.Declaration.Accessibility
import HandlerWiring.Declaration.Candidate
import HandlerWiring.Declaration.Interface
import HandlerWiring.Declaration.Location
import HandlerWiring.Declaration.Method
import HandlerWiring.Declaration.Snapshot
import HandlerWiring.Diagnostic
import HandlerWiring.Dictionary
import HandlerWiring.Digest.Blake3
import HandlerWiring.Event
import HandlerWiring.ExtensionPoint.Basic
import HandlerWiring.ExtensionPoint.Report
import HandlerWiring.ExtensionPoint.Rule
import HandlerWiring.ExtensionPoint.Strictness
import HandlerWiring.FileSystem.Basic
import HandlerWiring.FileSystem.Path
import HandlerWiring.Handler.Registration
import HandlerWiring.Handler.Shape
import HandlerWiring.HostName
import HandlerWiring.Input
import HandlerWiring.Json.Fault
import HandlerWiring.Json.Form
import HandlerWiring.Json.Node
import HandlerWiring.Json.Numeral
import HandlerWiring.Json.Place
import HandlerWiring.Json.Printer
import HandlerWiring.Json.Quotation
import HandlerWiring.Json.Scan
import HandlerWiring.Json.Schema
import HandlerWiring.Json.Schema.Reader
import HandlerWiring.Json.Schema.Writer
import HandlerWiring.Json.Value
import HandlerWiring.LogFilter
import HandlerWiring.Main
import HandlerWiring.Pass
import HandlerWiring.Program
import HandlerWiring.Proofs.Command.Failure
import HandlerWiring.Proofs.Command.Generate
import HandlerWiring.Proofs.Declaration.Snapshot
import HandlerWiring.Proofs.Decimal.Digits
import HandlerWiring.Proofs.Decimal.Rounding
import HandlerWiring.Proofs.Decimal.Shortest
import HandlerWiring.Proofs.Decimal.Format
import HandlerWiring.Proofs.Dictionary
import HandlerWiring.Proofs.ExtensionPoint.Violation
import HandlerWiring.Proofs.ExtensionPoint.Strictness
import HandlerWiring.Proofs.ExtensionPoint.Account
import HandlerWiring.Proofs.ExtensionPoint.Report
import HandlerWiring.Proofs.FileSystem.Basic
import HandlerWiring.Proofs.Handler.Registration
import HandlerWiring.Proofs.Input
import HandlerWiring.Proofs.Json.Form
import HandlerWiring.Proofs.Json.Node
import HandlerWiring.Proofs.Json.Numeral
import HandlerWiring.Proofs.Json.Printer
import HandlerWiring.Proofs.Json.Quotation
import HandlerWiring.Proofs.Json.Reader
import HandlerWiring.Proofs.Json.Scan
import HandlerWiring.Proofs.Json.Schema
import HandlerWiring.Proofs.Pass
import HandlerWiring.Proofs.Program
import HandlerWiring.Proofs.Session
import HandlerWiring.Repetition
import HandlerWiring.Sample
import HandlerWiring.Session
import HandlerWiring.Setting.Basic
import HandlerWiring.Setting.File
import HandlerWiring.Setting.Resolution
import HandlerWiring.Text.Alphabetic
import HandlerWiring.Text.Basic
import HandlerWiring.Text.Printable
import HandlerWiring.Text.Quoted
import HandlerWiring.Text.Styled
import HandlerWiring.Toml.Document
import HandlerWiring.Toml.Moment
import HandlerWiring.Toml.Numeral
import HandlerWiring.Toml.Quotation
import HandlerWiring.Toml.Table
import HandlerWiring.Unit.Generated
import HandlerWiring.Unit.Layout
import HandlerWiring.Unit.Render
import HandlerWiring.Proofs.Pass.Influence
import HandlerWiring.Proofs.Command.Agreement
import HandlerWiring.Proofs.Command.Config
import HandlerWiring.Proofs.Json.Decode
import HandlerWiring.Proofs.Json.Decode.Read
import HandlerWiring.Proofs.Json.Document
import HandlerWiring.Proofs.Json.Sound
import HandlerWiring.Proofs.Json.Position
import HandlerWiring.Proofs.Json.UnknownKey
import HandlerWiring.Proofs.Declaration.UnknownKey
import HandlerWiring.Proofs.Text.Pieces
import HandlerWiring.Proofs.FileSystem.Path
import HandlerWiring.Proofs.FileSystem.Directory
import HandlerWiring.Proofs.Command.Document
import HandlerWiring.Proofs.Command.Outputs
import HandlerWiring.Proofs.Command.Severity
import HandlerWiring.Proofs.Command.Effect
import HandlerWiring.Proofs.Setting.Name
import HandlerWiring.Proofs.Unit.Layout
import HandlerWiring.Proofs.Unit.Template
import HandlerWiring.Proofs.Pass.Selection
import HandlerWiring.Proofs.Unit.Synthesized
import HandlerWiring.Proofs.Setting.Precedence
import HandlerWiring.Proofs.Json.Grammar
import HandlerWiring.Proofs.Json.Arrangement
import HandlerWiring.Proofs.Json.Implied
import HandlerWiring.Proofs.Json.Alike
import HandlerWiring.Proofs.Declaration.Formatting
import HandlerWiring.Proofs.Command.ReadBack
import HandlerWiring.Proofs.Text.Range
import HandlerWiring.Proofs.Text.Category
import HandlerWiring.Proofs.Setting.Identifier
import HandlerWiring.Proofs.Unit.Heading
import HandlerWiring.Proofs.Text.Line
import HandlerWiring.Proofs.Unit.Reading
import HandlerWiring.Proofs.Unit.Determined
import HandlerWiring.Proofs.Command.Refusal
import HandlerWiring.Proofs.Declaration.Spelling
import HandlerWiring.Proofs.Handler.Place
import HandlerWiring.Proofs.Handler.Shape
import HandlerWiring.Proofs.Pass.Spelling
import HandlerWiring.Proofs.Setting.Warning
import HandlerWiring.Proofs.Text.Blank
import HandlerWiring.Proofs.Setting.Stability
import HandlerWiring.Proofs.Unit.Mark
import HandlerWiring.Proofs.Unit.Depth
import HandlerWiring.Proofs.Unit.Nesting
import HandlerWiring.Proofs.Repetition.Difference
import HandlerWiring.Proofs.Repetition.Deviation
import HandlerWiring.Proofs.Text.Bytes
import HandlerWiring.Proofs.Dictionary.Operation
import HandlerWiring.Proofs.Toml.Moment
import HandlerWiring.Proofs.Toml.Table
import HandlerWiring.Proofs.Setting.File
import HandlerWiring.Proofs.Pass.Log
import HandlerWiring.Proofs.Unit.Name
import HandlerWiring.Proofs.Input.Property
