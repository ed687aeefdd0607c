import FeatureLayers.Feature
import FeatureLayers.Schema.Field
import FeatureLayers.Source.Basic

namespace FeatureLayers.Query

/-- The subtypes that a layer of this kind shows: the kind itself and, for a multi form, its singular one. -/
def admittedKinds (kind : GeometryKind) : List GeometryKind := kind :: kind.singular?.toList

def kindLiteral (kind : GeometryKind) : String := "'" ++ kind.name ++ "'"

def guardText (spec : GeometryColumn) : String :=
  let column := quoteName spec.column
  match spec.encoding, spec.kind with
  | .cellId, _ => "H3_IS_VALID_CELL(" ++ column ++ ")"
  | _, some kind =>
    "ST_ASGEOJSON(" ++ column ++ "):type::string IN (" ++ commaList ((admittedKinds kind).map kindLiteral) ++ ")"
  | _, none => column ++ " IS NOT NULL"

def boxText (spec : GeometryColumn) (box : BoundingBox) : String :=
  let column := quoteName spec.column
  let wkt := box.toWkt
  match spec.encoding, spec.srid with
  | .geometry, some srid =>
    "ST_INTERSECTS(" ++ column ++ ", ST_GEOMETRYFROMWKT('" ++ wkt ++ "', " ++ intText srid ++ "))"
  | .geometry, none => "ST_INTERSECTS(" ++ column ++ ", ST_GEOMETRYFROMWKT('" ++ wkt ++ "'))"
  | .geography, _ => "ST_INTERSECTS(" ++ column ++ ", ST_GEOGRAPHYFROMWKT('" ++ wkt ++ "'))"
  | .cellId, _ => "ST_INTERSECTS(H3_CELL_TO_BOUNDARY(" ++ column ++ "), ST_GEOGRAPHYFROMWKT('" ++ wkt ++ "'))"

inductive Filter
  | ids (column : String) (wanted : List Int)
  | expression (text : String)
  | subset (text : String)
  | box (spec : GeometryColumn) (wanted : BoundingBox)
deriving DecidableEq, Repr

def Filter.text : Filter → String
  | .ids _ [] => "FALSE"
  | .ids column wanted => quoteName column ++ " IN (" ++ commaList (wanted.map intText) ++ ")"
  | .expression text => "(" ++ text ++ ")"
  | .subset text => "(" ++ text ++ ")"
  | .box spec wanted => boxText spec wanted

def samplingText (limit : Nat) : String := " ORDER BY RANDOM() LIMIT " ++ intText limit

end FeatureLayers.Query
