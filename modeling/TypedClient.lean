import TypedClient.Text.Replace
import TypedClient.Text.Quoted
import TypedClient.Text.WordCase
import TypedClient.Text.Displayed
import TypedClient.OrderedMap
import TypedClient.Json
import TypedClient.Decode.Reader
import TypedClient.Api.Schema
import TypedClient.Api.Parameter
import TypedClient.Api.Operation
import TypedClient.Api.Document
import TypedClient.Decode.Schema
import TypedClient.Decode.Parameter
import TypedClient.Decode.Document
import TypedClient.Generate
import TypedClient.Decode.Text
import TypedClient.Files.Tree
import TypedClient.Program
import TypedClient.Main
import TypedClient.Proofs.Codec.Agreement
import TypedClient.Proofs.Codec.Recursion
import TypedClient.Proofs.Codec.Readable
import TypedClient.Proofs.Generate.Scope
import TypedClient.Proofs.Json.Scalars
import TypedClient.Proofs.Json.Values
import TypedClient.Proofs.Json.Content
import TypedClient.Proofs.Api.Holds
import TypedClient.Proofs.Decode.Resolved
import TypedClient.Proofs.Decode.Schema
import TypedClient.Proofs.Decode.Parameter
import TypedClient.Proofs.Decode.Record
import TypedClient.Proofs.Decode.Document
import TypedClient.Proofs.Api.Exact
import TypedClient.Proofs.Decode.Gives
import TypedClient.Proofs.Decode.Lawful
import TypedClient.Proofs.Decode.RoundTrip
import TypedClient.Proofs.Codec.Faithful
import TypedClient.Proofs.Generate.Groups
import TypedClient.Proofs.Method.Expressions
import TypedClient.Proofs.Imports.Exact
import TypedClient.Proofs.Generate.Resolved
import TypedClient.Proofs.Generate.Meaning
import TypedClient.Proofs.Files.Path
import TypedClient.Proofs.Files.Place
import TypedClient.Proofs.Files.Writing
import TypedClient.Proofs.Files.Confined
import TypedClient.Proofs.Files.Limits
import TypedClient.Proofs.Files.Progress
import TypedClient.Proofs.Files.Exactly
import TypedClient.Proofs.Generate.Paths
import TypedClient.Proofs.Program.Verdict
import TypedClient.Proofs.Method.Agreement
import TypedClient.Proofs.Method.Address
import TypedClient.Proofs.Text.Nested
import TypedClient.Proofs.Codec.Fields
import TypedClient.Proofs.Method.Capture
import TypedClient.Proofs.Decode.Yields
import TypedClient.Proofs.Decode.Slots
import TypedClient.Proofs.Decode.Drafts
import TypedClient.Proofs.Decode.Members
import TypedClient.Proofs.Decode.Position
import TypedClient.Proofs.Decode.Alike
import TypedClient.Proofs.Decode.Agreement
import TypedClient.Proofs.Decode.Revision
import TypedClient.Proofs.Files.Overlay
import TypedClient.Proofs.Method.Comment
import TypedClient.Proofs.Text.Literals
import TypedClient.Proofs.Codec.Literals
import TypedClient.Proofs.Decode.Typed
import TypedClient.Proofs.Decode.Inside
import TypedClient.Proofs.Method.Response
import TypedClient.Proofs.Method.Outline
import TypedClient.Proofs.Method.Template
import TypedClient.Proofs.Decode.Untyped
import TypedClient.Proofs.Ordered.Gather
import TypedClient.Proofs.Imports.Lines
import TypedClient.Proofs.Imports.Moved
import TypedClient.Proofs.Generate.Documented
import TypedClient.Proofs.Codec.Tied
import TypedClient.Proofs.Fragment.Split
