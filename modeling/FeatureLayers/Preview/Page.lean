import FeatureLayers.Layer.Access

namespace FeatureLayers

structure Preview where
  columns : List Column
  rows : List Row
  cellFlags : List Bool
deriving Repr, Inhabited

namespace Preview

open Layer (Action queryAll)

def cellColumns (p : Preview) : List String := ((p.columns.zip p.cellFlags).filter Prod.snd).map fun c => c.1.name

def pageColumn (c : Column) : String :=
  let name := quoteName c.name
  if c.typeCode.encoding?.isSome then "ST_ASWKT(" ++ name ++ ") AS " ++ name else name

def pageText (fromText : String) (columns : List Column) (limit : Nat) : String :=
  "SELECT " ++ commaList (columns.map pageColumn) ++ " FROM " ++ fromText ++ " LIMIT " ++ intText limit

def probeColumn (c : Column) : String :=
  let name := quoteName c.name
  if c.typeCode.canHoldCellId then "COUNT_IF(H3_IS_VALID_CELL(" ++ name ++ ")) > 0 AS " ++ name
  else "FALSE AS " ++ name

def probeText (fromText : String) (columns : List Column) : String :=
  "SELECT " ++ commaList (columns.map probeColumn) ++ " FROM " ++ fromText

def noFlags (columns : List Column) : List Bool := columns.map fun _ => false

def flagsOfRows (columns : List Column) (rows : List Row) : List Bool :=
  let first := rows.head?.getD []
  (List.range columns.length).map fun i => (first[i]?.bind Value.asBool?).getD false

/-- One probe for all columns over the whole query; it is left out when no column can hold cells. -/
def findCells (endpoint : Warehouse.Endpoint) (fromText : String) (columns : List Column) : Action (List Bool) := do
  if columns.any (·.typeCode.canHoldCellId) then
    match ← Warehouse.Action.attempt (Warehouse.Action.queryAll (endpoint.command (probeText fromText columns))) with
    | .ok rows => return flagsOfRows columns rows
    | .error e =>
      if e.isCellFunctionUnsupported then
        Warehouse.Action.note .warn .preview "Cell validity unsupported for this query, no cell columns"
        return noFlags columns
      else throw (.warehouse e)
  else return noFlags columns

def ofQuery (endpoint : Warehouse.Endpoint) (query : String) (limit : Nat) : Action Preview := do
  let fromText := (Source.query query).fromClause
  let columns ← Layer.describe endpoint fromText
  Warehouse.Action.note .debug .preview "Preview page"
  let rows ← queryAll endpoint (pageText fromText columns limit)
  let cellFlags ← findCells endpoint fromText columns
  Warehouse.Action.note .info .preview "Previewed query"
  return ⟨columns, rows, cellFlags⟩

end Preview

end FeatureLayers
