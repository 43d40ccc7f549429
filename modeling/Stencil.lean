import Stencil.Cache.Basic
import Stencil.Cache.Session
import Stencil.CommandLine.Arguments
import Stencil.CommandLine.Error
import Stencil.CommandLine.Options
import Stencil.CommandLine.Run
import Stencil.CommandLine.Similarity
import Stencil.Context.Basic
import Stencil.Context.Found
import Stencil.File.Tree
import Stencil.Json.Basic
import Stencil.Json.Printer
import Stencil.Json.Reader
import Stencil.Log.Event
import Stencil.Log.Filter
import Stencil.Log.Pattern
import Stencil.Main
import Stencil.Members
import Stencil.Number.Basic
import Stencil.Number.Double
import Stencil.Number.Shortest
import Stencil.Proofs.Template.Joined
import Stencil.Proofs.Template.Pieces
import Stencil.Proofs.Text.Offset
import Stencil.Query.Form
import Stencil.Query.Values
import Stencil.Sink
import Stencil.Template.Basic
import Stencil.Template.Load
import Stencil.Template.Reader
import Stencil.Template.Render
import Stencil.Template.Scanner
import Stencil.Template.Stored
import Stencil.Text.Alphanumeric
import Stencil.Text.Blank
import Stencil.Text.Bytes
import Stencil.Text.Cut
import Stencil.Text.Graphic
import Stencil.Text.Hex
import Stencil.Text.Quoted
import Stencil.Text.Utf8
import Stencil.Text.Visible
import Stencil.Proofs.Template.Scan
import Stencil.Proofs.Template.Chunks
import Stencil.Proofs.Template.Canonical
import Stencil.Proofs.Template.Append
import Stencil.Cache.Threads
import Stencil.Proofs.Cache.Entries
import Stencil.Proofs.Cache.Threads
import Stencil.Cache.History
import Stencil.Proofs.Cache.History
import Stencil.Proofs.Query.Grouped
import Stencil.Proofs.Query.Encoded
import Stencil.Proofs.Context.SameValues
import Stencil.Proofs.Json.Written
import Stencil.Proofs.Template.Stored
import Stencil.Proofs.Context.Index
import Stencil.Proofs.Context.Path
import Stencil.Proofs.Template.Placeholder
import Stencil.Proofs.Query.Reference
import Stencil.Proofs.CommandLine.Run
import Stencil.Proofs.CommandLine.Arguments
import Stencil.Proofs.CommandLine.Call
import Stencil.Proofs.Context.Keyed
import Stencil.Proofs.Json.Leaves
import Stencil.Proofs.Context.Replaced
import Stencil.Proofs.Log.Filter
import Stencil.Proofs.Number.Value
import Stencil.Proofs.Context.Numbers
import Stencil.Proofs.Template.Static
import Stencil.Proofs.Template.Stops
import Stencil.Proofs.Query.Joined
import Stencil.Proofs.CommandLine.Delivery
import Stencil.Proofs.Template.Searches
import Stencil.Proofs.CommandLine.Accepted
