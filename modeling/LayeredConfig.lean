import LayeredConfig.CommandLine.Arguments
import LayeredConfig.CommandLine.Console
import LayeredConfig.CommandLine.Run
import LayeredConfig.Config
import LayeredConfig.Directive.Basic
import LayeredConfig.Directive.Block
import LayeredConfig.Directive.Escape
import LayeredConfig.Directive.Fault
import LayeredConfig.Directive.Find
import LayeredConfig.Document.Date
import LayeredConfig.Document.Format
import LayeredConfig.Document.Graph
import LayeredConfig.Document.Json
import LayeredConfig.Document.Slots
import LayeredConfig.Document.Value
import LayeredConfig.Expansion
import LayeredConfig.Fault
import LayeredConfig.Host
import LayeredConfig.Journal
import LayeredConfig.KeySet
import LayeredConfig.Layering
import LayeredConfig.Main
import LayeredConfig.Number.Reading
import LayeredConfig.Number.Shortest
import LayeredConfig.Number.Text
import LayeredConfig.Overlay
import LayeredConfig.Path
import LayeredConfig.Proofs.CommandLine.Failure
import LayeredConfig.Proofs.Directive.Choice
import LayeredConfig.Proofs.Directive.Cutting
import LayeredConfig.Proofs.Directive.Decoding
import LayeredConfig.Proofs.Directive.Escape
import LayeredConfig.Proofs.Directive.Grammar
import LayeredConfig.Proofs.Directive.Literal
import LayeredConfig.Proofs.Directive.Marker
import LayeredConfig.Proofs.Directive.Nesting
import LayeredConfig.Proofs.Directive.Scan
import LayeredConfig.Proofs.Directive.Search
import LayeredConfig.Proofs.Directive.Selection
import LayeredConfig.Proofs.Directive.Template
import LayeredConfig.Proofs.Document.Failure
import LayeredConfig.Proofs.Expansion.Agreement
import LayeredConfig.Proofs.Expansion.Cycle
import LayeredConfig.Proofs.Expansion.Footprint
import LayeredConfig.Proofs.Expansion.Lookups
import LayeredConfig.Proofs.Expansion.Memory
import LayeredConfig.Proofs.Expansion.Opacity
import LayeredConfig.Proofs.Expansion.Path
import LayeredConfig.Proofs.Expansion.Run
import LayeredConfig.Proofs.Expansion.Seams
import LayeredConfig.Proofs.Expansion.Splice
import LayeredConfig.Proofs.Expansion.Storage
import LayeredConfig.Proofs.Expansion.Tree
import LayeredConfig.Proofs.Host.Place
import LayeredConfig.Proofs.Layering.Agreement
import LayeredConfig.Proofs.Layering.Closure
import LayeredConfig.Proofs.Layering.Discovery
import LayeredConfig.Proofs.Layering.Merging
import LayeredConfig.Proofs.Layering.Order
import LayeredConfig.Proofs.Layering.Precedence
import LayeredConfig.Proofs.Overlay.Failure
import LayeredConfig.Proofs.Overlay.Listing
import LayeredConfig.Proofs.Overlay.Replacement
import LayeredConfig.Proofs.Rc.Assignment
import LayeredConfig.Proofs.Rc.Lines
import LayeredConfig.Proofs.Setting.Failure
import LayeredConfig.Proofs.Setting.Listing
import LayeredConfig.Proofs.Store.Build
import LayeredConfig.Proofs.Store.Fixpoint
import LayeredConfig.Proofs.Store.Handle
import LayeredConfig.Proofs.Store.Leftover
import LayeredConfig.Proofs.Store.Lifecycle
import LayeredConfig.Proofs.Store.Literal
import LayeredConfig.Proofs.Store.Lookups
import LayeredConfig.Proofs.Store.Opacity
import LayeredConfig.Proofs.Store.Order
import LayeredConfig.Proofs.Store.Truth
import LayeredConfig.Proofs.Text.Utf8
import LayeredConfig.Rc.Statement
import LayeredConfig.Rc.Substitution
import LayeredConfig.Rc.Words
import LayeredConfig.Redundancy
import LayeredConfig.Setting.Basic
import LayeredConfig.Setting.Defaults
import LayeredConfig.Setting.Listing
import LayeredConfig.Setting.Truth
import LayeredConfig.Sources
import LayeredConfig.Store
import LayeredConfig.Table
import LayeredConfig.Text.CaseContext
import LayeredConfig.Text.CellWidth
import LayeredConfig.Text.Digit
import LayeredConfig.Text.Emoji
import LayeredConfig.Text.Emoji.Flag
import LayeredConfig.Text.Emoji.Person
import LayeredConfig.Text.Emoji.Symbol
import LayeredConfig.Text.Integer
import LayeredConfig.Text.Lowercase
import LayeredConfig.Text.Printable
import LayeredConfig.Text.Quoted
import LayeredConfig.Text.Ranges
import LayeredConfig.Text.Space
import LayeredConfig.Text.Utf8
import LayeredConfig.Yaml.Cursor
import LayeredConfig.Yaml.Document
import LayeredConfig.Yaml.Event
import LayeredConfig.Yaml.Merge
import LayeredConfig.Yaml.Node
import LayeredConfig.Yaml.Scalar
import LayeredConfig.Yaml.Source
import LayeredConfig.Yaml.Tag
import LayeredConfig.Yaml.Token
import LayeredConfig.Yaml.Token.Name
import LayeredConfig.Yaml.Token.Scalar
import LayeredConfig.Yaml.Token.Stream
import LayeredConfig.Proofs.Rc.Boundary
import LayeredConfig.Proofs.Host.Directory
import LayeredConfig.Proofs.Overlay.Cycle
import LayeredConfig.Proofs.Overlay.Location
import LayeredConfig.Proofs.Overlay.Quoting
import LayeredConfig.Proofs.Overlay.Sequence
import LayeredConfig.Proofs.Layering.Rebuild
import LayeredConfig.Proofs.Redundancy.Setting
import LayeredConfig.Proofs.Store.Entry
