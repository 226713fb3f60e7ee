import ScriptTrace.Text.Basic
import ScriptTrace.Text.Lines
import ScriptTrace.Text.Blank
import ScriptTrace.Text.Digits
import ScriptTrace.Text.Extender
import ScriptTrace.Text.Grapheme
import ScriptTrace.Text.Utf8
import ScriptTrace.Text.Printable
import ScriptTrace.Text.Quoted
import ScriptTrace.Throwpoint.Link
import ScriptTrace.Throwpoint.Basic
import ScriptTrace.Throwpoint.Normal
import ScriptTrace.Log
import ScriptTrace.History.Line
import ScriptTrace.History.State
import ScriptTrace.History.Extractor
import ScriptTrace.Name
import ScriptTrace.Dump
import ScriptTrace.Disk.Path
import ScriptTrace.Disk.Error
import ScriptTrace.Disk.Tree
import ScriptTrace.Source.Cursor
import ScriptTrace.Source.Line
import ScriptTrace.Source.Index
import ScriptTrace.Number.Binary64
import ScriptTrace.Json.Basic
import ScriptTrace.Json.Writer
import ScriptTrace.Json.Reader
import ScriptTrace.Trace.Frame
import ScriptTrace.Trace.Wire
import ScriptTrace.Json.Decode
import ScriptTrace.Session.Error
import ScriptTrace.Session.Cache
import ScriptTrace.Session.Action
import ScriptTrace.Session.Host
import ScriptTrace.Session.Builder
import ScriptTrace.History.Choice
import ScriptTrace.Session.Requests
import ScriptTrace.Service.Request
import ScriptTrace.Service.Channel
import ScriptTrace.Yaml.Node
import ScriptTrace.Yaml.Place
import ScriptTrace.Yaml.Scalar
import ScriptTrace.Yaml.Token
import ScriptTrace.Yaml.Layout
import ScriptTrace.Yaml.Reading
import ScriptTrace.Fixture.FrontMatter
import ScriptTrace.Fixture.Check
import ScriptTrace.Fixture.Suite
import ScriptTrace.Command.Arguments
import ScriptTrace.Command.Paint
import ScriptTrace.Command.Input
import ScriptTrace.Command.Prompt
import ScriptTrace.Command.Render
import ScriptTrace.Command.LogSetting
import ScriptTrace.Command.Run
import ScriptTrace.Fixture.Replay
import ScriptTrace.Command.Files
import ScriptTrace.Main
import ScriptTrace.Proofs.History.Blocks
import ScriptTrace.Proofs.History.Reading
import ScriptTrace.Proofs.History.Extraction
import ScriptTrace.Proofs.Session.Resolution
import ScriptTrace.Proofs.History.Throwpoints
import ScriptTrace.Proofs.Session.Frames
import ScriptTrace.Proofs.Session.Renormalization
import ScriptTrace.Proofs.Session.Independence
import ScriptTrace.Proofs.Session.Callers
import ScriptTrace.Proofs.History.Locality
import ScriptTrace.Proofs.Throwpoint.Canonical
import ScriptTrace.Proofs.Throwpoint.Shapes
import ScriptTrace.Proofs.History.Sites
import ScriptTrace.Proofs.History.WrittenBlocks
import ScriptTrace.Proofs.Session.AbsoluteLines
import ScriptTrace.Proofs.Session.Refusals
import ScriptTrace.Proofs.Session.CacheContract
import ScriptTrace.Proofs.Session.Picking
import ScriptTrace.Proofs.Session.Selection
import ScriptTrace.Proofs.Service.Failures
import ScriptTrace.Proofs.Command.Lines
import ScriptTrace.Proofs.Json.Reading
import ScriptTrace.Proofs.Json.Writing
import ScriptTrace.Proofs.Service.Serving
import ScriptTrace.Proofs.Source.Nesting
import ScriptTrace.Proofs.Source.Commands
import ScriptTrace.Proofs.Session.IndexedLines
import ScriptTrace.Proofs.Json.Members
import ScriptTrace.Proofs.Trace.Wire
import ScriptTrace.Proofs.Dump.Printout
import ScriptTrace.Proofs.Dump.Numbering
import ScriptTrace.Proofs.Dump.SourceFile
import ScriptTrace.Proofs.LineEnds
import ScriptTrace.Proofs.Source.LineOrder
import ScriptTrace.Proofs.Fixture.Differences
import ScriptTrace.Proofs.Fixture.FrontMatter
import ScriptTrace.Proofs.Fixture.Accounts
import ScriptTrace.Proofs.History.Construction
import ScriptTrace.Proofs.Command.Choosing
import ScriptTrace.Proofs.History.LineShapes
import ScriptTrace.Proofs.Source.Moves
