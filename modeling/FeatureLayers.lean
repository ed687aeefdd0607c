import FeatureLayers.Calendar.Basic
import FeatureLayers.Calendar.Printing
import FeatureLayers.Calendar.Reading
import FeatureLayers.Cell.Boundary
import FeatureLayers.Cell.Grid
import FeatureLayers.Cell.Index
import FeatureLayers.CommandLine.Grammar
import FeatureLayers.CommandLine.Invocation
import FeatureLayers.CommandLine.Reading
import FeatureLayers.Configuration.Basic
import FeatureLayers.Configuration.Dotenv
import FeatureLayers.Configuration.Environment
import FeatureLayers.Configuration.Reading
import FeatureLayers.Crs.Transform
import FeatureLayers.Decode.Convert
import FeatureLayers.Decode.Fault
import FeatureLayers.Decode.Row
import FeatureLayers.Digest.Sha256
import FeatureLayers.Document.Feature
import FeatureLayers.Document.Geometry
import FeatureLayers.Document.Layer
import FeatureLayers.Document.Line
import FeatureLayers.Entries
import FeatureLayers.Failure
import FeatureLayers.Feature
import FeatureLayers.Geometry.Basic
import FeatureLayers.Geometry.BoundingBox
import FeatureLayers.Geometry.Extent
import FeatureLayers.Geometry.Intersection
import FeatureLayers.Geometry.Wkt
import FeatureLayers.Journal
import FeatureLayers.Journal.Filter
import FeatureLayers.Journal.Log
import FeatureLayers.Json.Basic
import FeatureLayers.Json.Reading
import FeatureLayers.Json.Record
import FeatureLayers.Layer.Access
import FeatureLayers.Layer.Basic
import FeatureLayers.Layer.Error
import FeatureLayers.Layer.Features
import FeatureLayers.Layer.Resolver
import FeatureLayers.Layer.Sampling
import FeatureLayers.Layer.Statistics
import FeatureLayers.Main
import FeatureLayers.Numeric.Double
import FeatureLayers.Numeric.Printing
import FeatureLayers.Numeric.Reading
import FeatureLayers.Numeric.Shortest
import FeatureLayers.Path
import FeatureLayers.Preview.Group
import FeatureLayers.Preview.Page
import FeatureLayers.Program.Commands
import FeatureLayers.Program.Run
import FeatureLayers.Program.Stage
import FeatureLayers.Proofs.Calendar.Moments
import FeatureLayers.Proofs.Calendar.Written
import FeatureLayers.Proofs.Cell.Forms
import FeatureLayers.Proofs.Cell.Spelling
import FeatureLayers.Proofs.Configuration.Passwords
import FeatureLayers.Proofs.Crs.Covering
import FeatureLayers.Proofs.Crs.Routes
import FeatureLayers.Proofs.Decode.Keys
import FeatureLayers.Proofs.Decode.Layout
import FeatureLayers.Proofs.Decode.Payloads
import FeatureLayers.Proofs.Decode.Rows
import FeatureLayers.Proofs.Decode.Shown
import FeatureLayers.Proofs.Decode.Temporal
import FeatureLayers.Proofs.Distinct
import FeatureLayers.Proofs.Document.Features
import FeatureLayers.Proofs.Geometry.Headers
import FeatureLayers.Proofs.Json.Literals
import FeatureLayers.Proofs.Json.Numbers
import FeatureLayers.Proofs.Json.RoundTrip
import FeatureLayers.Proofs.Json.Scaling
import FeatureLayers.Proofs.Json.Sorted
import FeatureLayers.Proofs.Json.Strings
import FeatureLayers.Proofs.Layer.Asking
import FeatureLayers.Proofs.Layer.Catalog
import FeatureLayers.Proofs.Layer.Counting
import FeatureLayers.Proofs.Layer.Cursors
import FeatureLayers.Proofs.Layer.Listing
import FeatureLayers.Proofs.Layer.Loading
import FeatureLayers.Proofs.Layer.Partition
import FeatureLayers.Proofs.Layer.Passes
import FeatureLayers.Proofs.Layer.Probing
import FeatureLayers.Proofs.Layer.Rejection
import FeatureLayers.Proofs.Layer.Remembering
import FeatureLayers.Proofs.Layer.Reopening
import FeatureLayers.Proofs.Layer.Resolving
import FeatureLayers.Proofs.Layer.Sized
import FeatureLayers.Proofs.Layer.Statistics
import FeatureLayers.Proofs.Layer.Whole
import FeatureLayers.Proofs.Numeric.Digits
import FeatureLayers.Proofs.Numeric.Exact
import FeatureLayers.Proofs.Numeric.Monotone
import FeatureLayers.Proofs.Numeric.Radix
import FeatureLayers.Proofs.Numeric.Rounding
import FeatureLayers.Proofs.Numeric.Shortest
import FeatureLayers.Proofs.Preview.Collecting
import FeatureLayers.Proofs.Preview.Course
import FeatureLayers.Proofs.Preview.Grouping
import FeatureLayers.Proofs.Preview.Payloads
import FeatureLayers.Proofs.Program.Labels
import FeatureLayers.Proofs.Program.Scanning
import FeatureLayers.Proofs.Query.Composed
import FeatureLayers.Proofs.Query.Confined
import FeatureLayers.Proofs.Query.Labels
import FeatureLayers.Proofs.Query.Output
import FeatureLayers.Proofs.Query.Parts
import FeatureLayers.Proofs.Query.Slot
import FeatureLayers.Proofs.Query.Splitting
import FeatureLayers.Proofs.Query.Token
import FeatureLayers.Proofs.Query.Visible
import FeatureLayers.Proofs.Scan.Agreement
import FeatureLayers.Proofs.Scan.Calls
import FeatureLayers.Proofs.Scan.Cancelling
import FeatureLayers.Proofs.Scan.Collecting
import FeatureLayers.Proofs.Scan.Complete
import FeatureLayers.Proofs.Scan.Course
import FeatureLayers.Proofs.Scan.Cursors
import FeatureLayers.Proofs.Scan.Delivery
import FeatureLayers.Proofs.Scan.Ending
import FeatureLayers.Proofs.Scan.History
import FeatureLayers.Proofs.Scan.Identifiers
import FeatureLayers.Proofs.Scan.Moves
import FeatureLayers.Proofs.Scan.Opening
import FeatureLayers.Proofs.Scan.Positions
import FeatureLayers.Proofs.Scan.Reading
import FeatureLayers.Proofs.Scan.ReadingOut
import FeatureLayers.Proofs.Scan.Restart
import FeatureLayers.Proofs.Scan.Rewinding
import FeatureLayers.Proofs.Scan.Yield
import FeatureLayers.Proofs.Schema.Kinds
import FeatureLayers.Proofs.Source.Pairs
import FeatureLayers.Proofs.Source.RoundTrip
import FeatureLayers.Proofs.Source.Styles
import FeatureLayers.Proofs.Text.Hex
import FeatureLayers.Proofs.Warehouse.Action
import FeatureLayers.Proofs.Warehouse.Balance
import FeatureLayers.Proofs.Warehouse.History
import FeatureLayers.Proofs.Warehouse.Pool
import FeatureLayers.Proofs.Warehouse.Replies
import FeatureLayers.Proofs.Warehouse.Sharing
import FeatureLayers.Proofs.Wkb.Canonical
import FeatureLayers.Proofs.Wkb.Dialect
import FeatureLayers.Proofs.Wkb.Prefixes
import FeatureLayers.Proofs.Wkb.RoundTrip
import FeatureLayers.Proofs.Wkb.Taking
import FeatureLayers.Proofs.Wkb.TypeWords
import FeatureLayers.Proofs.Workspace.Activity
import FeatureLayers.Proofs.Workspace.Cursors
import FeatureLayers.Proofs.Workspace.Lasting
import FeatureLayers.Proofs.Workspace.Loaded
import FeatureLayers.Proofs.Workspace.Operation
import FeatureLayers.Proofs.Workspace.Remembering
import FeatureLayers.Proofs.Workspace.Sampled
import FeatureLayers.Proofs.Workspace.Soundness
import FeatureLayers.Proofs.Workspace.Visible
import FeatureLayers.Query.Compose
import FeatureLayers.Query.Predicate
import FeatureLayers.Scan.Basic
import FeatureLayers.Scan.Fetch
import FeatureLayers.Scan.Open
import FeatureLayers.Scan.Rewind
import FeatureLayers.Scan.Run
import FeatureLayers.Scan.Selection
import FeatureLayers.Scan.Store
import FeatureLayers.Schema.AttributeType
import FeatureLayers.Schema.Catalog
import FeatureLayers.Schema.Encoding
import FeatureLayers.Schema.Field
import FeatureLayers.Schema.GeometryKind
import FeatureLayers.Settings
import FeatureLayers.Source.Basic
import FeatureLayers.Source.Descriptor
import FeatureLayers.Source.Uri
import FeatureLayers.Text.Blank
import FeatureLayers.Text.CaseData
import FeatureLayers.Text.Hex
import FeatureLayers.Text.Lowercase
import FeatureLayers.Value
import FeatureLayers.Warehouse.Command
import FeatureLayers.Warehouse.Cursor
import FeatureLayers.Warehouse.Error
import FeatureLayers.Warehouse.Script
import FeatureLayers.Warehouse.Session
import FeatureLayers.Wkb.Reader
import FeatureLayers.Wkb.Word
import FeatureLayers.Wkb.Writer
import FeatureLayers.Workspace
import FeatureLayers.Yaml.Node
import FeatureLayers.Yaml.Scalar
import FeatureLayers.Yaml.Spot
import FeatureLayers.Yaml.Token
