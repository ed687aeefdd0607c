import FeatureLayers.Digest.Sha256
import FeatureLayers.Layer.Error
import FeatureLayers.Query.Predicate

namespace FeatureLayers.Query

def geometryAlias : String := "geoflake_geometry"

def rowNumberAlias : String := "geoflake_row_number"

inductive Projected
  | field (name : String)
  | payload (encoding : Encoding) (column : String)
  | rawGeometry (column : String)
  | key (name : String)
  | rowNumber
deriving DecidableEq, Repr

def Projected.text : Projected → String
  | .field name | .rawGeometry name | .key name => quoteName name
  | .payload .cellId column => quoteName column ++ " AS " ++ quoteName geometryAlias
  | .payload _ column => "ST_ASWKB(" ++ quoteName column ++ ") AS " ++ quoteName geometryAlias
  | .rowNumber => "ROW_NUMBER() OVER (ORDER BY 1) AS " ++ quoteName rowNumberAlias

def Projected.name : Projected → String
  | .field name | .rawGeometry name | .key name => name
  | .payload _ _ => geometryAlias
  | .rowNumber => rowNumberAlias

structure Layout where
  attributes : List (Nat × Nat)
  geometry : Option Nat
  id : Nat
  width : Nat
deriving DecidableEq, Repr, Inhabited

structure Statement where
  projection : List Projected
  source : Source
  spec : GeometryColumn
  filters : List Filter
  sampleLimit : Option Nat
  layout : Layout
deriving DecidableEq, Repr

namespace Statement

def guard (s : Statement) : String := guardText s.spec

def orderLimit (s : Statement) : Option String := s.sampleLimit.map samplingText

def filterText (s : Statement) : String :=
  if s.filters.isEmpty then "" else " WHERE " ++ " AND ".intercalate (s.filters.map Filter.text)

def toSql (s : Statement) : String :=
  "SELECT * FROM (SELECT " ++ commaList (s.projection.map Projected.text) ++ " FROM " ++ s.source.fromClause ++
    " WHERE " ++ s.guard ++ ")" ++ s.filterText ++ s.orderLimit.getD ""

def fingerprint (s : Statement) : String := Digest.Sha256.hexOfText s.toSql

end Statement

structure Plan where
  source : Source
  fields : List Field
  primaryKey : Option Nat
  geometry : GeometryColumn
  subsetFilter : Option String
  sampleLimit : Option Nat
deriving DecidableEq, Repr

def appendNew (indexes : List Nat) (index : Nat) : List Nat :=
  if index ∈ indexes then indexes else indexes ++ [index]

def requestedFields (fields : List Field) : List Nat → List String → Except Layer.Error (List Nat)
  | done, [] => .ok done
  | done, name :: rest => match fields.findIdx? (·.name = name) with
    | some index => requestedFields fields (appendNew done index) rest
    | none => .error (.unknownField name)

/-- The fields a feature carries, in output order; a requested selection gets the primary key appended. -/
def outputFields (fields : List Field) (primaryKey : Option Nat) (request : Request) :
    Except Layer.Error (List Nat) :=
  match request.attributes with
  | none => .ok (List.range fields.length)
  | some names => do
    let indexes ← requestedFields fields [] names
    return match primaryKey with
      | some key => appendNew indexes key
      | none => indexes

def fieldName (fields : List Field) (index : Nat) : String := (fields[index]?.map (·.name)).getD ""

/-- Outer filters may name any column, so the selection is narrowed only when there are none. -/
def projectedFields (plan : Plan) (request : Request) (expression : Option String) (output : List Nat) : List Nat :=
  if expression.isNone && plan.subsetFilter.isNone && request.attributes.isSome then output
  else List.range plan.fields.length

/-- The raw geometry column is added unless an attribute carries it already. -/
def rawColumns (plan : Plan) (projected : List Nat) : List Projected :=
  if projected.any fun i => fieldName plan.fields i = plan.geometry.column then []
  else [.rawGeometry plan.geometry.column]

def idColumn (plan : Plan) (projected : List Nat) (width : Nat) : Nat × String × List Projected :=
  match plan.primaryKey with
  | some key =>
    let name := fieldName plan.fields key
    match projected.idxOf? key with
    | some column => (column, name, [])
    | none => (width, name, [.key name])
  | none => (width, rowNumberAlias, [.rowNumber])

/--
The statement for a request. The expression must have been validated; the one in the request is not read. The box is in
the system of the source.
-/
def compose (plan : Plan) (request : Request) (expression : Option String) (box : Option BoundingBox) :
    Except Layer.Error Statement := do
  let output ← outputFields plan.fields plan.primaryKey request
  let projected := projectedFields plan request expression output
  let attributes ← output.mapM fun field => match projected.idxOf? field with
    | some column => pure (field, column)
    | none => .error (.unknownField (fieldName plan.fields field))
  let columns := projected.map fun i => Projected.field (fieldName plan.fields i)
  let payload := if request.noGeometry then [] else [Projected.payload plan.geometry.encoding plan.geometry.column]
  let visible := columns ++ payload ++ rawColumns plan projected
  let (id, idName, identity) := idColumn plan projected visible.length
  let projection := visible ++ identity
  let filters :=
    (request.featureIds.map (Filter.ids idName)).toList ++ (expression.map Filter.expression).toList ++
      (plan.subsetFilter.map Filter.subset).toList ++ (box.map (Filter.box plan.geometry)).toList
  return {
    projection
    source := plan.source
    spec := plan.geometry
    filters
    sampleLimit := plan.sampleLimit
    layout := {
      attributes
      geometry := if request.noGeometry then none else some columns.length
      id
      width := projection.length
    }
  }

end FeatureLayers.Query
