import FeatureLayers.Layer.Resolver
import FeatureLayers.Layer.Sampling
import FeatureLayers.Scan.Basic

namespace FeatureLayers

structure Layer where
  descriptor : Descriptor
  settings : Settings
  base : ScanBase
  spec : Option GeometryColumn
  sampling : Option Sampling
  store : Store
  countCache : Option Nat
  extentCache : Option (Option BoundingBox)

namespace Layer

def isLimited (l : Layer) : Bool := l.sampling.any Sampling.isLimited

def kind? (l : Layer) : Option GeometryKind := l.spec.bind GeometryColumn.featureKind?

def fields (l : Layer) : List Field := l.base.fields

def fromClause (l : Layer) : String := l.base.source.fromClause

def emptyQuery : Error := .invalidSource "empty query"

/-- The spatial column: as declared, with only a missing reference system looked up, or else resolved. -/
def findSpec (r : Resolver) (d : Descriptor) : Action (Option GeometryColumn) := do
  match d.declaredColumn? with
  | some spec =>
    if spec.srid.isNone && spec.encoding = .geometry then
      let srid ← r.srid d.source.fromClause spec.column
      return some { spec with srid }
    else return some spec
  | none => return d.pick? (← r.resolveAll d.source)

def findFields (r : Resolver) : Source → Action (List Field)
  | .table schema name => do
    let columns ← r.tableColumns schema name
    return (columns.filter fun c => (Encoding.ofDeclaredType? c.dataType).isNone).map fun c =>
      Field.ofTypeName c.name c.dataType
  | .query sql => do
    let columns ← r.queryColumns (.query sql)
    return (columns.filter fun c => c.typeCode.encoding?.isNone).map Field.ofColumn

def noteWhen (condition : Bool) (message : String) : Action PUnit :=
  if condition then Warehouse.Action.note .warn .source message else pure ()

def ofDescriptor (d : Descriptor) (context : Warehouse.Context) (settings : Settings) : Action Layer := do
  if d.source.isEmptyQuery then throw emptyQuery
  let endpoint : Warehouse.Endpoint := ⟨d.connection, context⟩
  let resolver : Resolver := ⟨endpoint, settings⟩
  let spec ← findSpec resolver d
  noteWhen spec.isNone "No geometry column resolved"
  let fields ← findFields resolver d.source
  let primaryKey := d.primaryKey.bind (Field.index? fields)
  noteWhen (d.primaryKey.isSome && primaryKey.isNone) "Primary key is not an attribute of the source"
  let sampling ← spec.mapM fun spec => Sampling.assess settings endpoint d.source.fromClause spec.encoding
  Warehouse.Action.note .info .source "Opened data source"
  return {
    descriptor := d
    settings
    base := {
      endpoint
      source := d.source
      fields
      primaryKey
      subsetFilter := none
      sampleLimit := sampling.bind (·.limit)
      batchSize := settings.effectiveBatchSize
      transforms := []
    }
    spec
    sampling
    store := .empty
    countCache := none
    extentCache := none
  }

end Layer

end FeatureLayers
