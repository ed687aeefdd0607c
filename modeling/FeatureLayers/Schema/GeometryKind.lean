namespace FeatureLayers

inductive GeometryKind
  | point
  | lineString
  | polygon
  | multiPoint
  | multiLineString
  | multiPolygon
  | geometryCollection
deriving DecidableEq, Repr, Inhabited

namespace GeometryKind

def all : List GeometryKind :=
  [.point, .lineString, .polygon, .multiPoint, .multiLineString, .multiPolygon, .geometryCollection]

def name : GeometryKind → String
  | .point => "Point"
  | .lineString => "LineString"
  | .polygon => "Polygon"
  | .multiPoint => "MultiPoint"
  | .multiLineString => "MultiLineString"
  | .multiPolygon => "MultiPolygon"
  | .geometryCollection => "GeometryCollection"

def ofName? (name : String) : Option GeometryKind := all.find? (·.name = name)

def isMulti : GeometryKind → Bool
  | .multiPoint | .multiLineString | .multiPolygon => true
  | _ => false

def singular? : GeometryKind → Option GeometryKind
  | .multiPoint => some .point
  | .multiLineString => some .lineString
  | .multiPolygon => some .polygon
  | _ => none

def plural? : GeometryKind → Option GeometryKind
  | .point => some .multiPoint
  | .lineString => some .multiLineString
  | .polygon => some .multiPolygon
  | _ => none

def observe (kinds : List GeometryKind) (kind : GeometryKind) : List GeometryKind :=
  if kind ∈ kinds then kinds
  else match kind.singular? with
    | some single => kinds.filter (· != single) ++ [kind]
    | none => match kind.plural? with
      | some multi => if multi ∈ kinds then kinds else kinds ++ [kind]
      | none => kinds ++ [kind]

/-- The observed kinds in order of appearance, each once, a singular kind only where its multi form does not occur. -/
def dedup (observed : List GeometryKind) : List GeometryKind := observed.foldl observe []

end GeometryKind

end FeatureLayers
