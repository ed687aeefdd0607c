import FeatureLayers.Geometry.Basic
import FeatureLayers.Json.Basic
import FeatureLayers.Json.Record

namespace FeatureLayers

open Json (Node Record)

namespace Coord

def toJson (c : Coord) : Json := .object [("x", .double c.x), ("y", .double c.y)]

def ofNode? (node : Node) : Option Coord := do
  let record ← Record.ofNode? ["x", "y"] node
  return ⟨← record.required "x" Node.double?, ← record.required "y" Node.double?⟩

end Coord

def coordsToJson (coords : List Coord) : Json := .array (coords.map Coord.toJson)

def coordsOfNode? : Node → Option (List Coord) := Node.list? Coord.ofNode?

namespace Polygon

def toJson (p : Polygon) : Json :=
  .object [("exterior", coordsToJson p.exterior), ("interiors", .array (p.interiors.map coordsToJson))]

def ofNode? (node : Node) : Option Polygon := do
  let record ← Record.ofNode? ["exterior", "interiors"] node
  return ⟨← record.required "exterior" coordsOfNode?, ← record.required "interiors" (Node.list? coordsOfNode?)⟩

end Polygon

namespace Rect

def toJson (r : Rect) : Json := .object [("min", r.min.toJson), ("max", r.max.toJson)]

def ofNode? (node : Node) : Option Rect := do
  let record ← Record.ofNode? ["min", "max"] node
  return ⟨← record.required "min" Coord.ofNode?, ← record.required "max" Coord.ofNode?⟩

end Rect

namespace Geometry

def segmentToJson (a b : Coord) : Json := .object [("start", a.toJson), ("end", b.toJson)]

mutual

def toJson : Geometry → Json
  | .point c => .object [("Point", c.toJson)]
  | .line a b => .object [("Line", segmentToJson a b)]
  | .lineString coords => .object [("LineString", coordsToJson coords)]
  | .polygon p => .object [("Polygon", p.toJson)]
  | .multiPoint points => .object [("MultiPoint", coordsToJson points)]
  | .multiLineString lines => .object [("MultiLineString", .array (lines.map coordsToJson))]
  | .multiPolygon polygons => .object [("MultiPolygon", .array (polygons.map Polygon.toJson))]
  | .geometryCollection members => .object [("GeometryCollection", .array (membersToJson members))]
  | .rect r => .object [("Rect", r.toJson)]
  | .triangle a b c => .object [("Triangle", .array [a.toJson, b.toJson, c.toJson])]

def membersToJson : List Geometry → List Json
  | [] => []
  | g :: rest => toJson g :: membersToJson rest

end

def segmentOfNode? (node : Node) : Option Geometry := do
  let record ← Record.ofNode? ["start", "end"] node
  return .line (← record.required "start" Coord.ofNode?) (← record.required "end" Coord.ofNode?)

def triangleOfNode? (node : Node) : Option Geometry := do
  match ← coordsOfNode? node with
  | [a, b, c] => some (.triangle a b c)
  | _ => none

def simpleOfNode? (shape : String) (content : Node) : Option Geometry :=
  match shape with
  | "Point" => (Coord.ofNode? content).map .point
  | "Line" => segmentOfNode? content
  | "LineString" => (coordsOfNode? content).map .lineString
  | "Polygon" => (Polygon.ofNode? content).map .polygon
  | "MultiPoint" => (coordsOfNode? content).map .multiPoint
  | "MultiLineString" => (Node.list? coordsOfNode? content).map .multiLineString
  | "MultiPolygon" => (Node.list? Polygon.ofNode? content).map .multiPolygon
  | "Rect" => (Rect.ofNode? content).map .rect
  | "Triangle" => triangleOfNode? content
  | _ => none

def ofNodeWithin? : Nat → Node → Option Geometry
  | 0, _ => none
  | levels + 1, .object [(some shape, content)] =>
    if shape = "GeometryCollection" then
      (Node.list? (ofNodeWithin? levels) content).map .geometryCollection
    else simpleOfNode? shape content
  | _ + 1, _ => none

def ofNode? (depth : Nat) (node : Node) : Option Geometry :=
  (ofNodeWithin? (node.nesting + 1) node).filter fun g => depth + g.toJson.nesting ≤ Json.maxNesting

end Geometry

end FeatureLayers
