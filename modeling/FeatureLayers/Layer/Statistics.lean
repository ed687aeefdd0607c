import FeatureLayers.Geometry.Extent
import FeatureLayers.Layer.Basic

namespace FeatureLayers.Layer

def whereText (l : Layer) (guards : List String) : String :=
  let conditions := guards ++ (l.base.subsetFilter.map fun filter => "(" ++ filter ++ ")").toList
  if conditions.isEmpty then "" else " WHERE " ++ " AND ".intercalate conditions

/-- Loaded features that stand for the whole layer. -/
def wholeInMemory? (l : Layer) : Option (List Feature) := if l.isLimited then none else l.store.features

/-- Cells that are not valid are no features; other values are counted as they are. -/
def countGuards (l : Layer) : List String :=
  match l.spec with
  | some spec => if spec.encoding = .cellId then [Query.guardText spec] else []
  | none => []

def featureCount (l : Layer) : Action (Nat × Layer) := do
  match l.wholeInMemory?, l.countCache with
  | some features, _ => return (features.length, l)
  | none, some count => return (count, l)
  | none, none =>
    let count ← countRows l.base.endpoint (l.fromClause ++ l.whereText l.countGuards)
    return (count, { l with countCache := some count })

def boxOf (g : Geometry) : Option BoundingBox :=
  g.extent?.map fun r => .normalized r.min.x r.min.y r.max.x r.max.y

def unionAll : List BoundingBox → Option BoundingBox
  | [] => none
  | b :: rest => some (rest.foldl BoundingBox.union b)

def extentOfFeatures (features : List Feature) : Option BoundingBox :=
  unionAll (features.filterMap fun f => f.geometry.bind boxOf)

def extentTarget (spec : GeometryColumn) : String :=
  match spec.encoding with
  | .cellId => "H3_CELL_TO_BOUNDARY(" ++ quoteName spec.column ++ ")"
  | .geometry | .geography => quoteName spec.column

def extentText (l : Layer) (spec : GeometryColumn) : String :=
  let target := extentTarget spec
  "SELECT MIN(ST_XMIN(" ++ target ++ ")), MIN(ST_YMIN(" ++ target ++ ")), MAX(ST_XMAX(" ++ target ++
    ")), MAX(ST_YMAX(" ++ target ++ ")) FROM " ++ l.fromClause ++ l.whereText [Query.guardText spec]

def extentOfRows (rows : List Row) : Option BoundingBox :=
  match rows.head?.map fun row => (row.take 4).filterMap Value.asDouble? with
  | some [xmin, ymin, xmax, ymax] => some (.normalized xmin ymin xmax ymax)
  | _ => none

/-- The extent in the system of the source; none without a spatial column or without values in it. -/
def extent (l : Layer) : Action (Option BoundingBox × Layer) := do
  match l.spec with
  | none => return (none, l)
  | some spec =>
    match l.wholeInMemory?, l.extentCache with
    | some features, _ => return (extentOfFeatures features, l)
    | none, some extent => return (extent, l)
    | none, none =>
      let extent := extentOfRows (← queryAll l.base.endpoint (l.extentText spec))
      return (extent, { l with extentCache := some extent })

def uniqueText (l : Layer) (column : String) (limit : Option Nat) : String :=
  "SELECT DISTINCT " ++ column ++ " FROM " ++ l.fromClause ++ l.whereText [] ++ " ORDER BY " ++ column ++
    match limit with
    | some limit => " LIMIT " ++ intText limit
    | none => ""

def uniqueValues (l : Layer) (field : String) (limit : Option Nat) : Action (List Value) := do
  match Field.index? l.fields field with
  | none => throw (.unknownField field)
  | some index =>
    let column := quoteName (Query.fieldName l.fields index)
    let rows ← queryAll l.base.endpoint (l.uniqueText column limit)
    return rows.filterMap List.head?

def isView (l : Layer) : Action Bool := do
  match l.base.source with
  | .query _ => return false
  | .table schema name =>
    let rows ← queryAll l.base.endpoint <| "SELECT COUNT(*) FROM INFORMATION_SCHEMA.TABLES WHERE TABLE_TYPE = 'VIEW' AND " ++
      Resolver.catalogCondition schema name
    return 0 < firstCount rows

end FeatureLayers.Layer
