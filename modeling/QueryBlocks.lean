import QueryBlocks.Block.Basic
import QueryBlocks.Block.Document
import QueryBlocks.Block.Numbering
import QueryBlocks.Block.Sameness
import QueryBlocks.Block.Slots
import QueryBlocks.Command.Arguments
import QueryBlocks.Command.Check
import QueryBlocks.Command.Failure
import QueryBlocks.Command.Listing
import QueryBlocks.Command.Session
import QueryBlocks.Data.Catalog
import QueryBlocks.Data.Dictionary
import QueryBlocks.Display.Table
import QueryBlocks.Json.Basic
import QueryBlocks.Json.Number
import QueryBlocks.Json.Printer
import QueryBlocks.Json.Reader
import QueryBlocks.Json.Record
import QueryBlocks.Main
import QueryBlocks.Number.Binary64
import QueryBlocks.Number.Notation
import QueryBlocks.Number.Shortest
import QueryBlocks.Plan.Compile
import QueryBlocks.Plan.Fragment
import QueryBlocks.Plan.Literal
import QueryBlocks.Proofs.Block.Contents
import QueryBlocks.Proofs.Block.Document
import QueryBlocks.Proofs.Block.Edits
import QueryBlocks.Proofs.Block.Inputs
import QueryBlocks.Proofs.Block.Likeness
import QueryBlocks.Proofs.Block.Lockstep
import QueryBlocks.Proofs.Block.Marks
import QueryBlocks.Proofs.Block.Numbering
import QueryBlocks.Proofs.Block.Persistence
import QueryBlocks.Proofs.Block.Places
import QueryBlocks.Proofs.Block.Plugging
import QueryBlocks.Proofs.Block.Reading
import QueryBlocks.Proofs.Block.Resaving
import QueryBlocks.Proofs.Block.Slots
import QueryBlocks.Proofs.Block.Traversal
import QueryBlocks.Proofs.Command.Compilation
import QueryBlocks.Proofs.Command.Steps
import QueryBlocks.Proofs.Host.Evaluation
import QueryBlocks.Proofs.Host.Reader
import QueryBlocks.Proofs.Data.Dictionary
import QueryBlocks.Proofs.Json.Ordered
import QueryBlocks.Proofs.Json.Records
import QueryBlocks.Proofs.Number.Layout
import QueryBlocks.Proofs.Number.RoundTrip
import QueryBlocks.Proofs.Number.Rounding
import QueryBlocks.Proofs.Plan.Arguments
import QueryBlocks.Proofs.Plan.Constancy
import QueryBlocks.Proofs.Plan.Dependence
import QueryBlocks.Proofs.Plan.Lines
import QueryBlocks.Proofs.Plan.Printing
import QueryBlocks.Proofs.Query.Derivation
import QueryBlocks.Proofs.Query.Literals
import QueryBlocks.Proofs.Query.LoadedValues
import QueryBlocks.Proofs.Query.Names
import QueryBlocks.Proofs.Query.Parts
import QueryBlocks.Proofs.Query.Syntax
import QueryBlocks.Proofs.Query.Token
import QueryBlocks.Proofs.Query.Unambiguity
import QueryBlocks.Proofs.Schema.Answers
import QueryBlocks.Proofs.Schema.Envelope
import QueryBlocks.Proofs.Schema.Layers
import QueryBlocks.Proofs.Schema.Listing
import QueryBlocks.Proofs.Schema.Loading
import QueryBlocks.Proofs.Schema.Offers
import QueryBlocks.Proofs.Text.Scanner
import QueryBlocks.Proofs.Text.Unsigned
import QueryBlocks.Proofs.Transport.FailedStatus
import QueryBlocks.Proofs.Transport.ReportedErrors
import QueryBlocks.Proofs.Workspace.Creation
import QueryBlocks.Proofs.Workspace.Growth
import QueryBlocks.Proofs.Workspace.Independence
import QueryBlocks.Proofs.Workspace.Lifetime
import QueryBlocks.Proofs.Workspace.Overlap
import QueryBlocks.Proofs.Workspace.Pass
import QueryBlocks.Proofs.Workspace.Refresh
import QueryBlocks.Proofs.Workspace.Session
import QueryBlocks.Proofs.Workspace.Synchronisation
import QueryBlocks.Proofs.Workspace.Upkeep
import QueryBlocks.Proofs.Workspace.Verdicts
import QueryBlocks.Proofs.Xml.Elements
import QueryBlocks.Proofs.Xml.Escaping
import QueryBlocks.Proofs.Xml.Tags
import QueryBlocks.Schema.Basic
import QueryBlocks.Schema.Cache
import QueryBlocks.Schema.Introspection
import QueryBlocks.Schema.Template
import QueryBlocks.Schema.TypeRef
import QueryBlocks.Settings.Basic
import QueryBlocks.Settings.Load
import QueryBlocks.Text.Base64
import QueryBlocks.Text.Blank
import QueryBlocks.Text.Bytes
import QueryBlocks.Text.Cell
import QueryBlocks.Text.Composition
import QueryBlocks.Text.Direction
import QueryBlocks.Text.Hexadecimal
import QueryBlocks.Text.Ignorable
import QueryBlocks.Text.Joining
import QueryBlocks.Text.Mark
import QueryBlocks.Text.Order
import QueryBlocks.Text.Percent
import QueryBlocks.Text.Pictograph
import QueryBlocks.Text.Printable
import QueryBlocks.Text.Quoted
import QueryBlocks.Text.Ranges
import QueryBlocks.Text.Unsigned
import QueryBlocks.Text.Width
import QueryBlocks.Toml.Document
import QueryBlocks.Toml.Fault
import QueryBlocks.Toml.Moment
import QueryBlocks.Toml.Number
import QueryBlocks.Toml.Outline
import QueryBlocks.Toml.Quoted
import QueryBlocks.Toml.Scalar
import QueryBlocks.Toml.Span
import QueryBlocks.Toml.Table
import QueryBlocks.Toml.Text
import QueryBlocks.Toml.Token
import QueryBlocks.Toml.Value
import QueryBlocks.Transport.Client
import QueryBlocks.Transport.Error
import QueryBlocks.Transport.Http
import QueryBlocks.Url.Address
import QueryBlocks.Url.Basic
import QueryBlocks.Url.Domain
import QueryBlocks.Url.Mapping
import QueryBlocks.Url.Punycode
import QueryBlocks.Workspace.Basic
import QueryBlocks.Workspace.Revalidation
import QueryBlocks.Workspace.Sync
import QueryBlocks.Xml.Attribute
import QueryBlocks.Xml.Element
import QueryBlocks.Xml.Escaped
import QueryBlocks.Xml.Event
import QueryBlocks.Xml.Fault
import QueryBlocks.Proofs.Json.Places
import QueryBlocks.Proofs.Plan.NormalForm
import QueryBlocks.Proofs.Schema.References
import QueryBlocks.Proofs.Schema.Entries
import QueryBlocks.Proofs.Schema.Passes
import QueryBlocks.Proofs.Block.Locality
import QueryBlocks.Proofs.Workspace.Mutation
import QueryBlocks.Proofs.Text.Percent
import QueryBlocks.Proofs.Block.Connections
import QueryBlocks.Proofs.Workspace.Insertion
import QueryBlocks.Proofs.Xml.Pieces
import QueryBlocks.Proofs.Xml.Layout
import QueryBlocks.Proofs.Block.Layout
import QueryBlocks.Proofs.Block.Identities
import QueryBlocks.Proofs.Block.Focus
import QueryBlocks.Proofs.Workspace.Identities
import QueryBlocks.Proofs.Block.Loaded
import QueryBlocks.Proofs.Block.OwnState
import QueryBlocks.Proofs.Workspace.Idempotence
import QueryBlocks.Proofs.Command.Check
import QueryBlocks.Proofs.Settings.Reading
import QueryBlocks.Proofs.Settings.Headers
import QueryBlocks.Proofs.Plan.Emptiness
import QueryBlocks.Proofs.Query.StringLiteral
import QueryBlocks.Proofs.Xml.Faults
import QueryBlocks.Proofs.Xml.Forest
