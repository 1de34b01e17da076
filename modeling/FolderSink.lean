import FolderSink.Text.Utf16
import FolderSink.Text.Upper
import FolderSink.Text.Blank
import FolderSink.Text.Quoted
import FolderSink.Number.Double
import FolderSink.Number.Decimal
import FolderSink.Number.Literal
import FolderSink.Value.Basic
import FolderSink.Value.Print
import FolderSink.Format.Directive
import FolderSink.Format.Template
import FolderSink.Format.Render
import FolderSink.Format.Check
import FolderSink.Path.Posix
import FolderSink.Path.Scope
import FolderSink.Glob.Brace
import FolderSink.Glob.Category
import FolderSink.Glob.Regex
import FolderSink.Glob.Part
import FolderSink.Glob.Match
import FolderSink.Report.Console
import FolderSink.Report.Failure
import FolderSink.Destination.DateText
import FolderSink.Destination.Clock
import FolderSink.Destination.Place
import FolderSink.Destination.Binding
import FolderSink.Config.Settings
import FolderSink.Disk.Basic
import FolderSink.Disk.Resolve
import FolderSink.Disk.Calls
import FolderSink.Tree.Act
import FolderSink.Tree.Ops
import FolderSink.Tree.Staging
import FolderSink.Tree.Writer
import FolderSink.Command.Write
import FolderSink.Value.Coerce
import FolderSink.Report.Logger
import FolderSink.Yaml.Node
import FolderSink.Yaml.Schema
import FolderSink.Yaml.FlowScalar
import FolderSink.Yaml.Lexer
import FolderSink.Yaml.Cst
import FolderSink.Yaml.Parser
import FolderSink.Yaml.Props
import FolderSink.Yaml.BlockScalar
import FolderSink.Yaml.Directives
import FolderSink.Yaml.Compose
import FolderSink.Yaml.Document
import FolderSink.Yaml.Load
import FolderSink.Yaml.Read
import FolderSink.Yaml.Emit
import FolderSink.Config.Loader
import FolderSink.Main
import FolderSink.Proofs.Path.Slash
import FolderSink.Proofs.Glob.Literal
import FolderSink.Proofs.Disk.Shape
import FolderSink.Proofs.Disk.Walk
import FolderSink.Proofs.Disk.Calls
import FolderSink.Proofs.Tree.Steps
import FolderSink.Proofs.Tree.Delete
import FolderSink.Proofs.Tree.Copy
import FolderSink.Proofs.Tree.Preserve
import FolderSink.Proofs.Tree.InPlace
import FolderSink.Proofs.Format.Grammar
import FolderSink.Proofs.Format.Validation
import FolderSink.Proofs.Tree.Frame
import FolderSink.Proofs.Tree.Rollback
import FolderSink.Proofs.Number.Integer
import FolderSink.Proofs.Number.Numeral
import FolderSink.Proofs.Report.Rotation
import FolderSink.Proofs.Report.LogFiles
import FolderSink.Proofs.Disk.Parents
import FolderSink.Proofs.Tree.Containment
import FolderSink.Proofs.Format.Concat
import FolderSink.Proofs.Format.Texts
import FolderSink.Proofs.Format.Integers
import FolderSink.Proofs.Format.Width
import FolderSink.Proofs.Number.Rounding
import FolderSink.Proofs.Format.Floats
import FolderSink.Proofs.Config.Validation
import FolderSink.Proofs.Destination.Calendar
import FolderSink.Proofs.Destination.Stamp
import FolderSink.Proofs.Path.Relative
import FolderSink.Proofs.Destination.Placement
import FolderSink.Proofs.Disk.Blocked
import FolderSink.Proofs.Tree.Conflict
import FolderSink.Proofs.Config.Revalidation
import FolderSink.Proofs.Path.Scope
import FolderSink.Proofs.Command.Write
import FolderSink.Proofs.Tree.Removal
import FolderSink.Proofs.Tree.Overlay
import FolderSink.Proofs.Tree.Swap
import FolderSink.Proofs.Tree.Idempotence
import FolderSink.Proofs.Tree.Confinement
