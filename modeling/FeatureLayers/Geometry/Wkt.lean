import FeatureLayers.Geometry.Basic
import FeatureLayers.Numeric.Printing

namespace FeatureLayers.Geometry.Wkt

def coord (c : Coord) : String := c.x.toText ++ " " ++ c.y.toText

def joined (items : List String) : String := ",".intercalate items

def inParens (text : String) : String := "(" ++ text ++ ")"

def coords (cs : List Coord) : String := inParens (joined (cs.map coord))

def rings (p : Polygon) : String := inParens (joined ((p.exterior :: p.interiors).map coords))

def tagged (tag : String) (items : List String) : String :=
  if items.isEmpty then tag ++ " EMPTY" else tag ++ inParens (joined items)

mutual

def write : Geometry → String
  | .point c => "POINT" ++ inParens (coord c)
  | .line a b => tagged "LINESTRING" [coord a, coord b]
  | .lineString cs => tagged "LINESTRING" (cs.map coord)
  | .polygon p => "POLYGON" ++ rings p
  | .multiPoint points => tagged "MULTIPOINT" (points.map (inParens ∘ coord))
  | .multiLineString lines => tagged "MULTILINESTRING" (lines.map coords)
  | .multiPolygon polygons => tagged "MULTIPOLYGON" (polygons.map rings)
  | .geometryCollection members => tagged "GEOMETRYCOLLECTION" (writeMembers members)
  | .rect r => "POLYGON" ++ rings r.toPolygon
  | .triangle a b c => "POLYGON" ++ rings (Polygon.closing (triangleRing a b c) [])

def writeMembers : List Geometry → List String
  | [] => []
  | g :: rest => write g :: writeMembers rest

end

end FeatureLayers.Geometry.Wkt
