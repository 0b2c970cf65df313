import Sluice.Admission.Acl
import Sluice.Admission.Authorizer
import Sluice.Admission.Demand
import Sluice.Avro.Convert
import Sluice.Avro.Error
import Sluice.Avro.Generate
import Sluice.Avro.Name
import Sluice.Catalog.Basic
import Sluice.Catalog.Codec
import Sluice.Catalog.Source
import Sluice.Config
import Sluice.Decimal.Basic
import Sluice.Decimal.Bounds
import Sluice.Decimal.Error
import Sluice.Decimal.Reader
import Sluice.Json.Basic
import Sluice.Json.Decode
import Sluice.Json.Printer
import Sluice.Json.Reader
import Sluice.Json.Token
import Sluice.Number.Binary64
import Sluice.Number.Shortest
import Sluice.Number.Width
import Sluice.Proofs.Admission.Gate
import Sluice.Proofs.Admission.Isolation
import Sluice.Proofs.Admission.Meeting
import Sluice.Proofs.Admission.Memory
import Sluice.Proofs.Admission.Requirement
import Sluice.Proofs.Avro.Conversion
import Sluice.Proofs.Avro.Derivation
import Sluice.Proofs.Avro.Form
import Sluice.Proofs.Avro.NameEvents
import Sluice.Proofs.Avro.NameTables
import Sluice.Proofs.Avro.RecordNames
import Sluice.Proofs.Avro.Regeneration
import Sluice.Proofs.Avro.RoundTrip
import Sluice.Proofs.Avro.Uniqueness
import Sluice.Proofs.Catalog.Change
import Sluice.Proofs.Catalog.Claims
import Sluice.Proofs.Catalog.History
import Sluice.Proofs.Catalog.Lookup
import Sluice.Proofs.Catalog.StoredForms
import Sluice.Proofs.Catalog.Unrelated
import Sluice.Proofs.Catalog.Users
import Sluice.Proofs.Decimal.Coercion
import Sluice.Proofs.Decimal.Computation
import Sluice.Proofs.Decimal.Value
import Sluice.Proofs.Except
import Sluice.Proofs.Json.RoundTrip
import Sluice.Proofs.Json.Written
import Sluice.Proofs.Queue.Calls
import Sluice.Proofs.Queue.Effects
import Sluice.Proofs.Queue.Interleaving
import Sluice.Proofs.Queue.Traffic
import Sluice.Proofs.Queue.Turns
import Sluice.Proofs.Row.Bounds
import Sluice.Proofs.Row.Layer
import Sluice.Proofs.Row.Position
import Sluice.Proofs.Row.Traversal
import Sluice.Proofs.Schema.Description
import Sluice.Proofs.Schema.LogicalDecimal
import Sluice.Proofs.Schema.NormalForm
import Sluice.Proofs.Schema.OfSql
import Sluice.Proofs.Schema.RoundTrip
import Sluice.Proofs.Schema.Tagged
import Sluice.Proofs.Schema.Typing
import Sluice.Proofs.Server.Clients
import Sluice.Proofs.Server.Coherence
import Sluice.Proofs.Server.Columns
import Sluice.Proofs.Server.Creation
import Sluice.Proofs.Server.Properties
import Sluice.Proofs.Server.Readers
import Sluice.Proofs.Server.Requests
import Sluice.Proofs.Server.Settings
import Sluice.Proofs.Server.Types
import Sluice.Proofs.SqlType.Completeness
import Sluice.Proofs.SqlType.Grammar
import Sluice.Proofs.SqlType.Parameters
import Sluice.Proofs.SqlType.Positions
import Sluice.Proofs.SqlType.Printed
import Sluice.Proofs.SqlType.Recognition
import Sluice.Proofs.SqlType.RoundTrip
import Sluice.Proofs.SqlType.Safety
import Sluice.Proofs.SqlType.Scan
import Sluice.Proofs.SqlType.Shape
import Sluice.Proofs.SqlType.Soundness
import Sluice.Proofs.SqlType.Stored
import Sluice.Proofs.SqlType.Tagged
import Sluice.Proofs.SqlType.TaggedReaders
import Sluice.Proofs.SqlType.UniqueText
import Sluice.Proofs.Statement.DeclarationText
import Sluice.Proofs.Statement.Grouping
import Sluice.Proofs.Statement.Leaves
import Sluice.Proofs.Statement.QueryText
import Sluice.Proofs.Statement.Topics
import Sluice.Proofs.Text.Boundary
import Sluice.Proofs.Text.Character
import Sluice.Proofs.Text.Integer
import Sluice.Proofs.Text.Uppercase
import Sluice.Queue.Basic
import Sluice.Queue.QueryId
import Sluice.Row.Basic
import Sluice.Row.Coercion
import Sluice.Schema.Basic
import Sluice.Schema.Codec
import Sluice.Schema.Description
import Sluice.Schema.LogicalDecimal
import Sluice.Schema.OfSql
import Sluice.Schema.Tagged
import Sluice.Schema.ToSql
import Sluice.Server.Basic
import Sluice.Server.Creation
import Sluice.Server.Declaration
import Sluice.Server.Error
import Sluice.SqlType.Basic
import Sluice.SqlType.Codec
import Sluice.SqlType.Names
import Sluice.SqlType.Order
import Sluice.SqlType.Printer
import Sluice.SqlType.Syntax
import Sluice.SqlType.Tagged
import Sluice.SqlType.TaggedCodec
import Sluice.SqlType.TaggedSyntax
import Sluice.Statement.Basic
import Sluice.Statement.Printer
import Sluice.Statement.Topics
import Sluice.Text.Alphanumeric
import Sluice.Text.Ascii
import Sluice.Text.Blank
import Sluice.Text.CodeRanges
import Sluice.Text.Integer
import Sluice.Text.Printable
import Sluice.Text.Quoted
import Sluice.Text.Uppercase
