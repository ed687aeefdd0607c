import FeatureLayers.Layer.Access
import FeatureLayers.Schema.Catalog
import FeatureLayers.Settings
import FeatureLayers.Source.Descriptor

namespace FeatureLayers

structure Resolver where
  endpoint : Warehouse.Endpoint
  settings : Settings

namespace Resolver

open Layer (Action queryAll)

structure Split where
  declared : List (String × Encoding)
  candidates : List String
deriving DecidableEq, Repr

def splitCatalog (marker : String) (columns : List CatalogColumn) : Split where
  declared := columns.filterMap fun c => (Encoding.ofDeclaredType? c.dataType).map (c.name, ·)
  candidates := (columns.filter fun c =>
    (Encoding.ofDeclaredType? c.dataType).isNone && isCellCandidate c.dataType c.comment marker).map (·.name)

/-- The columns of a query have no comments, so all that can hold cells are probed. -/
def splitColumns (columns : List Column) : Split where
  declared := columns.filterMap fun c => c.typeCode.encoding?.map (c.name, ·)
  candidates := (columns.filter fun c => c.typeCode.encoding?.isNone && c.typeCode.canHoldCellId).map (·.name)

def catalogCondition (schema : Option String) (table : String) : String :=
  "TABLE_NAME ILIKE " ++ quoteLiteral table ++
    match schema with
    | some schema => " AND TABLE_SCHEMA ILIKE " ++ quoteLiteral schema
    | none => ""

def catalogText (schema : Option String) (table : String) : String :=
  "SELECT COLUMN_NAME, DATA_TYPE, COMMENT FROM INFORMATION_SCHEMA.COLUMNS WHERE " ++ catalogCondition schema table ++
    " ORDER BY ORDINAL_POSITION"

/-- A catalog row; the ordinal is the row's place in the answer. -/
def catalogColumn? (row : Row) (ordinal : Nat) : Option CatalogColumn := do
  let name ← row.head?.bind Value.asText?
  return {
    name
    dataType := (row[1]?.bind Value.asText?).getD "TEXT"
    comment := row[2]?.bind Value.asText?
    ordinal
  }

def tableColumns (r : Resolver) (schema : Option String) (table : String) : Action (List CatalogColumn) := do
  let rows ← queryAll r.endpoint (catalogText schema table)
  return rows.zipIdx.filterMap fun (row, ordinal) => catalogColumn? row ordinal

def queryColumns (r : Resolver) (source : Source) : Action (List Column) := Layer.describe r.endpoint source.fromClause

def probeText (fromText column : String) : String :=
  "SELECT H3_IS_VALID_CELL(" ++ quoteName column ++ ") FROM " ++ fromText ++ " WHERE " ++ quoteName column ++
    " IS NOT NULL LIMIT 1"

def isTrue (value : Option Value) : Bool := (value.bind Value.asBool?).getD false

def probeCell (r : Resolver) (fromText column : String) : Action Bool := do
  match ← Warehouse.Action.attempt (Warehouse.Action.queryAll (r.endpoint.command (probeText fromText column))) with
  | .ok rows => return rows.any fun row => isTrue row.head?
  | .error e =>
    if e.isCellFunctionUnsupported then
      Warehouse.Action.note .warn .resolution "Cell probe unsupported, column not confirmed"
      return false
    else throw (.warehouse e)

def confirmCellColumns (r : Resolver) (fromText : String) (candidates : List String) : Action (List String) :=
  candidates.filterM (r.probeCell fromText)

def kindsText (fromText column : String) : String :=
  "SELECT DISTINCT ST_ASGEOJSON(" ++ quoteName column ++ "):type::string FROM " ++ fromText ++ " WHERE " ++
    quoteName column ++ " IS NOT NULL"

def observedKind (row : Row) : Action (Option GeometryKind) := do
  match row.head?.bind Value.asText? with
  | none => return none
  | some name =>
    let kind := GeometryKind.ofName? name
    if kind.isNone then Warehouse.Action.note .warn .resolution "Ignoring unknown geometry type"
    return kind

def geometryKinds (r : Resolver) (fromText column : String) : Action (List GeometryKind) := do
  let rows ← queryAll r.endpoint (kindsText fromText column)
  let observed ← rows.mapM observedKind
  return GeometryKind.dedup (observed.filterMap id)

def sridText (fromText column : String) : String :=
  "SELECT ANY_VALUE(ST_SRID(" ++ quoteName column ++ ")) FROM " ++ fromText ++ " WHERE " ++ quoteName column ++
    " IS NOT NULL"

def fitsInt32 (n : Int) : Bool := -Nat.pow 2 31 ≤ n && n < Nat.pow 2 31

def srid (r : Resolver) (fromText column : String) : Action (Option Int) := do
  let rows ← queryAll r.endpoint (sridText fromText column)
  return ((Layer.firstCell? rows).bind Value.asInt?).filter fitsInt32

/-- A column without values is one layer of unknown kind. -/
def columnSpecs (column : String) (encoding : Encoding) (srid : Option Int) (kinds : List GeometryKind) :
    List GeometryColumn :=
  match kinds with
  | [] => [⟨column, encoding, none, srid⟩]
  | kinds => kinds.map fun kind => ⟨column, encoding, some kind, srid⟩

def cellSpec (column : String) : GeometryColumn := ⟨column, .cellId, none, some Descriptor.geographySrid⟩

def declaredSpecs (r : Resolver) (fromText : String) (declared : String × Encoding) : Action (List GeometryColumn) := do
  let (column, encoding) := declared
  let srid ← match encoding with
    | .geometry => r.srid fromText column
    | .geography | .cellId => pure (some Descriptor.geographySrid)
  return columnSpecs column encoding srid (← r.geometryKinds fromText column)

def split (r : Resolver) : Source → Action Split
  | .table schema name => do return splitCatalog r.settings.cellMarker (← r.tableColumns schema name)
  | .query sql => do return splitColumns (← r.queryColumns (.query sql))

/-- Every layer of a source: those of declared columns in column order, then the cell columns. -/
def resolveAll (r : Resolver) (source : Source) : Action (List GeometryColumn) := do
  let fromText := source.fromClause
  let found ← r.split source
  let declared ← found.declared.mapM (r.declaredSpecs fromText)
  let cells ← r.confirmCellColumns fromText found.candidates
  Warehouse.Action.note .debug .resolution "Resolved geometry columns"
  return declared.flatten ++ cells.map cellSpec

def resolve (r : Resolver) (source : Source) (preferred : Option String) : Action (Option GeometryColumn) := do
  let specs ← r.resolveAll source
  return match preferred with
    | some column => specs.find? (·.column = column)
    | none => specs.head?

end Resolver

end FeatureLayers
