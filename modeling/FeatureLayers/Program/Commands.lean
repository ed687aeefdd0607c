import FeatureLayers.CommandLine.Invocation
import FeatureLayers.Document.Line
import FeatureLayers.Layer.Features
import FeatureLayers.Layer.Statistics
import FeatureLayers.Preview.Group
import FeatureLayers.Preview.Page
import FeatureLayers.Program.Stage

namespace FeatureLayers.Program

open CommandLine (SourceArguments ScanArguments PreviewArguments Command)
open Json (orNull)

structure Setting where
  connector : Connector
  environment : Environment
  configuration : Configuration

namespace Setting

def openSession (s : Setting) (name : String) : Action Warehouse.Endpoint := do
  let parameters ← Action.ofExcept ((s.configuration.connection s.environment name).mapError Failure.ofConfiguration)
  Action.connect s.connector name parameters
  return ⟨name, parameters.context⟩

/-- Opens a layer. A subset filter that the warehouse does not accept is passed over. -/
def openLayer (s : Setting) (a : SourceArguments) : Action Layer := do
  let d ← Action.ofExcept a.descriptor
  let endpoint ← s.openSession d.connection
  let layer ← Action.ofLayer (Layer.ofDescriptor d endpoint.context s.configuration.engine)
  match a.subset with
  | none => return layer
  | some filter =>
    let (accepted, layer) ← Action.ofLayer (layer.setSubset (some filter))
    if !accepted then Action.note .warn .command "subset filter rejected, ignoring"
    return layer

def resolve (s : Setting) (a : SourceArguments) : Action PUnit := do
  let d ← Action.ofExcept a.descriptor
  let endpoint ← s.openSession d.connection
  let resolver : Resolver := ⟨endpoint, s.configuration.engine⟩
  let specs ← Action.ofLayer (resolver.resolveAll d.source)
  Action.printJson (.array (specs.map GeometryColumn.toJson))

def primaryKeyName? (layer : Layer) : Option String :=
  (layer.base.primaryKey.bind (layer.fields[·]?)).map (·.name)

def info (s : Setting) (a : SourceArguments) : Action PUnit := do
  let layer ← s.openLayer a
  let (count, layer) ← Action.ofLayer layer.featureCount
  let (extent, layer) ← Action.ofLayer layer.extent
  let isView ← Action.ofLayer layer.isView
  Action.printJson (.object [
    ("uri", .string (Uri.write layer.descriptor)),
    ("fields", .array (layer.fields.map Field.toJson)),
    ("primary_key", orNull .string (primaryKeyName? layer)),
    ("geometry", orNull GeometryColumn.toJson layer.spec),
    ("feature_count", .int count),
    ("extent", orNull BoundingBox.toJson extent),
    ("sampled", .bool layer.isLimited),
    ("view", .bool isView)])

def sql (s : Setting) (a : ScanArguments) : Action PUnit := do
  let layer ← s.openLayer a.source
  let request ← Action.ofExcept a.request
  let statement ← Action.ofLayer (layer.explain request)
  Action.print statement.toSql

def linesFrom (names : List String) : (bound : Nat) → List String → Run → Except Layer.Error Unit × List String × Run
  | 0, lines, run => (.ok (), lines, run)
  | bound + 1, lines, run => match run.fetchNext with
    | (.error e, run) => (.error e, lines, run)
    | (.ok none, run) => (.ok (), lines, run)
    | (.ok (some feature), run) => linesFrom names bound (feature.line names :: lines) run

/-- Prints features up to a limit, and closes the scan whatever happens. -/
def printFeatures (names : List String) (limit : Option Nat) (layer : Layer) (scan : Scan) : Action PUnit :=
  ExceptT.mk fun stage =>
    let run : Run := ⟨scan, stage.session, layer.store⟩
    let all := run.remaining + 1
    let (result, lines, run) := linesFrom names (limit.elim all (min all)) [] run
    let run := run.close
    (result.mapError Failure.ofLayer,
      { stage with session := run.session, printed := stage.printed ++ lines.reverse })

def scan (s : Setting) (a : ScanArguments) : Action PUnit := do
  let layer ← s.openLayer a.source
  let request ← Action.ofExcept a.request
  let scan ← Action.ofLayer (layer.getFeatures request)
  printFeatures (request.attributes.getD (layer.fields.map (·.name))) a.limit layer scan
  Action.note .info .command "scan finished"

def pageJson (p : Preview) : Json := .object [
  ("columns", .array (p.columns.map Column.toJson)),
  ("rows", .array (p.rows.map fun row => .array (row.map Value.toJson))),
  ("cell_flags", .array (p.cellFlags.map .bool)),
  ("cell_columns", .array (p.cellColumns.map .string))]

def groupJson (fields : List Field) (g : FeatureGroup) : Json := .object [
  ("kind", g.kind.toJson),
  ("fields", .array (fields.map Field.toJson)),
  ("features", .int g.features.size)]

def preview (s : Setting) (a : PreviewArguments) : Action PUnit := do
  let endpoint ← s.openSession a.connection
  let engine := s.configuration.engine
  match a.layers with
  | some column =>
    let c ← Action.ofLayer (FeatureGroup.ofQuery endpoint a.query column engine.effectiveBatchSize)
    Action.printJson (.array (c.groups.map (groupJson c.fields)))
  | none =>
    let page ← Action.ofLayer (Preview.ofQuery endpoint a.query (a.limit.getD engine.previewLimit))
    Action.printJson (pageJson page)

def perform (s : Setting) : Command → Action PUnit
  | .resolve a => s.resolve a
  | .info a => s.info a
  | .sql a => s.sql a
  | .scan a => s.scan a
  | .preview a => s.preview a

end Setting

end FeatureLayers.Program
