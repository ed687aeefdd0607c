import FeatureLayers.Scan.Basic

namespace FeatureLayers.Scan

open Layer (Action)

def transformFor (base : ScanBase) (spec : GeometryColumn) (request : Request) :
    Except Layer.Error (Option Crs.Transform) :=
  match base.transforms.between spec.srid request.destinationSrid with
  | .notNeeded => .ok none
  | .via t => .ok (some t)
  | .unsupported source target => .error (.unsupportedTransform source target)

/-- The box of a request in the source; one without extent is no box. -/
def sourceBox (request : Request) (transform : Option Crs.Transform) : Option BoundingBox :=
  match request.filterRect with
  | none => none
  | some box =>
    if box.isEmpty then none
    else match transform with
      | some t => some (Crs.boxToSource box t)
      | none => some box

def queryPlan (base : ScanBase) (spec : GeometryColumn) : Query.Plan where
  source := base.source
  fields := base.fields
  primaryKey := base.primaryKey
  geometry := spec
  subsetFilter := base.subsetFilter
  sampleLimit := base.sampleLimit

def acceptedExpression (base : ScanBase) (request : Request) : Action (Option String) := do
  match request.expression with
  | none => return none
  | some expression =>
    if ← Layer.acceptsExpression base.endpoint base.source.fromClause expression then return some expression
    else return none

def plan (base : ScanBase) (spec : GeometryColumn) (request : Request) :
    Action (Query.Statement × Option Crs.Transform) := do
  let transform ← Layer.ofExcept (transformFor base spec request)
  let expression ← acceptedExpression base request
  let statement ← Layer.ofExcept (Query.compose (queryPlan base spec) request expression (sourceBox request transform))
  Warehouse.Action.note .debug .composition "Composed feature query"
  return (statement, transform)

def execute (endpoint : Warehouse.Endpoint) (statement : Query.Statement) : Action Phase := do
  Warehouse.Action.note .info .scan "Executing feature query"
  let result ← Layer.ofWarehouse (Warehouse.Action.execute (endpoint.command statement.toSql))
  return .streaming result [] false

def requireSpec : Option GeometryColumn → Action GeometryColumn
  | some spec => pure spec
  | none => throw .missingGeometryColumn

def stream (base : ScanBase) (spec : Option GeometryColumn) (request : Request) : Action Scan := do
  let spec ← requireSpec spec
  let (statement, transform) ← plan base spec request
  let decoder := Decode.RowDecoder.of statement.layout base.fields spec.encoding transform
  let phase ← execute base.endpoint statement
  return { idle base spec (.statement statement decoder) transform with phase }

def selectionFor (base : ScanBase) (request : Request) (transform : Option Crs.Transform) :
    Except Layer.Error Selection := do
  let attributes ← match request.attributes with
    | some _ => some <$> Query.outputFields base.fields base.primaryKey request
    | none => pure none
  return ⟨request.featureIds, sourceBox request transform, attributes, request.noGeometry⟩

def replay (base : ScanBase) (spec : Option GeometryColumn) (features : List Feature) (request : Request) :
    Action Scan := do
  let spec ← requireSpec spec
  let transform ← Layer.ofExcept (transformFor base spec request)
  let selection ← Layer.ofExcept (selectionFor base request transform)
  Warehouse.Action.note .debug .scan "Replaying loaded features"
  return { idle base spec (.replay features selection) transform with phase := .replaying features }

end FeatureLayers.Scan
