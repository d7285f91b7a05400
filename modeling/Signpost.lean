import Signpost.Block
import Signpost.Command.Arguments
import Signpost.Command.Footprint
import Signpost.Command.Run
import Signpost.Command.Usage
import Signpost.Console.Emoji
import Signpost.Console.Escape
import Signpost.Console.Listing
import Signpost.Console.Markup
import Signpost.Console.Page
import Signpost.Console.Payload
import Signpost.Console.Sheet
import Signpost.Console.Style
import Signpost.Definition
import Signpost.Dialect
import Signpost.FileTree
import Signpost.Header
import Signpost.Index.Build
import Signpost.Json
import Signpost.Library
import Signpost.Literal
import Signpost.Log.Record
import Signpost.Log.Router
import Signpost.Log.Stamp
import Signpost.Main
import Signpost.Markdown.Block
import Signpost.Markdown.Emphasis
import Signpost.Markdown.Entity
import Signpost.Markdown.Html
import Signpost.Markdown.Inline
import Signpost.Markdown.Line
import Signpost.Markdown.Link
import Signpost.NameSet
import Signpost.Notice
import Signpost.Parameter
import Signpost.Path
import Signpost.Query.CallPath
import Signpost.Query.Completion
import Signpost.Query.Hover
import Signpost.Query.Names
import Signpost.Query.Resolve
import Signpost.Query.Token
import Signpost.Report
import Signpost.Session
import Signpost.Settings
import Signpost.Settings.Check
import Signpost.Settings.Dialect
import Signpost.Settings.Environment
import Signpost.Settings.Hints
import Signpost.Settings.Load
import Signpost.Settings.Logging
import Signpost.Settings.Source
import Signpost.Store
import Signpost.Table
import Signpost.Text.Basic
import Signpost.Text.Blank
import Signpost.Text.Case
import Signpost.Text.Cased
import Signpost.Text.Digit
import Signpost.Text.Identifier
import Signpost.Text.Letter
import Signpost.Text.Likeness
import Signpost.Text.Lines
import Signpost.Text.Margin
import Signpost.Text.Printable
import Signpost.Text.Punctuation
import Signpost.Text.Quoted
import Signpost.Text.Utf8
import Signpost.Text.Variant
import Signpost.Text.Width
import Signpost.Text.Word
import Signpost.Value
import Signpost.Yaml.Cursor
import Signpost.Yaml.Document
import Signpost.Yaml.Node
import Signpost.Yaml.Scalar
import Signpost.Yaml.Token
import Signpost.Proofs.Query.CallPath
import Signpost.Proofs.Dialect
import Signpost.Proofs.Table
import Signpost.Proofs.Header
import Signpost.Proofs.Definition
import Signpost.Proofs.Index.Outline
import Signpost.Proofs.Index.Build
import Signpost.Proofs.Index.Names
import Signpost.Proofs.Query.Token
import Signpost.Proofs.Session
import Signpost.Proofs.Parameter.Segment
import Signpost.Proofs.Parameter.Reading
import Signpost.Proofs.Parameter.RoundTrip
import Signpost.Proofs.Signature
import Signpost.Proofs.Literal
import Signpost.Proofs.Parameter.WellFormed
import Signpost.Proofs.Index.Step
import Signpost.Proofs.Index.Append
import Signpost.Proofs.Index.Ledger
import Signpost.Proofs.Index.WellFormed
import Signpost.Proofs.Store
import Signpost.Proofs.History
import Signpost.Proofs.Query.Blocked
import Signpost.Proofs.Completion
import Signpost.Proofs.Settings.Check
import Signpost.Proofs.Settings.Environment
import Signpost.Proofs.Settings.Load
import Signpost.Proofs.Overrun
import Signpost.Proofs.Locator
import Signpost.Proofs.Path
import Signpost.Proofs.NameSet
import Signpost.Proofs.Settings.Recheck
import Signpost.Proofs.Merge
import Signpost.Proofs.Settings.Sources
import Signpost.Proofs.Settings.Precedence
import Signpost.Proofs.Parameter.Blocked
import Signpost.Proofs.Parameter.Comma
import Signpost.Proofs.Index.Nesting
import Signpost.Proofs.FirstLine
import Signpost.Proofs.KeyPath
import Signpost.Proofs.FileTree
import Signpost.Proofs.Library
import Signpost.Proofs.Confinement
import Signpost.Proofs.Index.Breaks
import Signpost.Proofs.Query.Alias
import Signpost.Proofs.Query.Alphabet
import Signpost.Proofs.Console.Emoji
import Signpost.Proofs.Console.Style
import Signpost.Proofs.Console.Markup
import Signpost.Proofs.Console.Plain
import Signpost.Proofs.Console.Listing
import Signpost.Proofs.Query.Word
import Signpost.Proofs.Query.Names
import Signpost.Proofs.Description
import Signpost.Proofs.Outcome
import Signpost.Proofs.FileTree.Change
import Signpost.Proofs.Query.Path
import Signpost.Proofs.Log.Routing
