import SqlPrep.Calendar
import SqlPrep.Choice
import SqlPrep.Comment.DollarTag
import SqlPrep.Comment.Removal
import SqlPrep.Comment.ScanState
import SqlPrep.Files.Store
import SqlPrep.Files.Tree
import SqlPrep.Log.Console
import SqlPrep.Log.Record
import SqlPrep.Number.Binary64
import SqlPrep.Number.Reading
import SqlPrep.Number.Shortest
import SqlPrep.Prepare
import SqlPrep.Settings.Choices
import SqlPrep.Settings.Default
import SqlPrep.Settings.Overlay
import SqlPrep.Settings.Validation
import SqlPrep.Spacing.Collapse
import SqlPrep.Spacing.ScanState
import SqlPrep.Text.Base64
import SqlPrep.Text.Blank
import SqlPrep.Text.Case
import SqlPrep.Text.Digit
import SqlPrep.Text.Printable
import SqlPrep.Text.Quoted
import SqlPrep.Value.Access
import SqlPrep.Value.Basic
import SqlPrep.Value.Display
import SqlPrep.Yaml.Builtin
import SqlPrep.Yaml.Cursor
import SqlPrep.Yaml.Document
import SqlPrep.Yaml.Fault
import SqlPrep.Yaml.Library
import SqlPrep.Yaml.Node
import SqlPrep.Yaml.Node.OfValue
import SqlPrep.Yaml.Node.Parse
import SqlPrep.Yaml.Node.Write
import SqlPrep.Yaml.Page
import SqlPrep.Yaml.ScalarValue
import SqlPrep.Yaml.Style
import SqlPrep.Yaml.Tag
import SqlPrep.Yaml.Token
import SqlPrep.Yaml.Token.Name
import SqlPrep.Yaml.Token.Scalar
import SqlPrep.Yaml.Token.Stream
import SqlPrep.Proofs.Comment.RegionStep
import SqlPrep.Proofs.Comment.Run
import SqlPrep.Proofs.Comment.Segmentation
import SqlPrep.Proofs.ScanLoop
import SqlPrep.Proofs.ScanProgress
import SqlPrep.Proofs.Comment.Lookahead
import SqlPrep.Proofs.Comment.Continuation
import SqlPrep.Proofs.Comment.PartialStrategy
import SqlPrep.Proofs.Comment.Idempotence
import SqlPrep.Proofs.Spacing.BlankRuns
import SqlPrep.Proofs.Spacing.Pieces
import SqlPrep.Proofs.Spacing.CanonicalForm
import SqlPrep.Proofs.ScanChunks
import SqlPrep.Proofs.Comment.Lines
import SqlPrep.Proofs.Prepare.QuoteAgreement
import SqlPrep.Proofs.Prepare.Form
import SqlPrep.Proofs.Prepare.Stability
import SqlPrep.Proofs.Prepare.CommentBodies
import SqlPrep.Proofs.Prepare.Composition
import SqlPrep.Proofs.Prepare.SingleLine
import SqlPrep.Proofs.Settings.Rebuilt
import SqlPrep.Proofs.Settings.Effective
import SqlPrep.Proofs.Files.RoundTrip
import SqlPrep.Proofs.Files.Fallback
import SqlPrep.Proofs.Yaml.ReadBack
import SqlPrep.Proofs.Log.Change
import SqlPrep.Proofs.Log.Session
import SqlPrep.Settings.InPlace
import SqlPrep.Proofs.Value.Key
import SqlPrep.Proofs.Settings.InPlace
import SqlPrep.Proofs.Settings.RightBias
import SqlPrep.Proofs.Comment.Delimiter
import SqlPrep.Proofs.Comment.Literal
import SqlPrep.Proofs.Comment.Shrinking
import SqlPrep.Proofs.Comment.Unterminated
import SqlPrep.Proofs.Log.Fallback
