import FeatureLayers.Numeric.Double
import FeatureLayers.Schema.GeometryKind

namespace FeatureLayers

structure Coord where
  x : Double
  y : Double
deriving DecidableEq, Repr, Inhabited

namespace Coord

def eq (a b : Coord) : Bool := a.x.eq b.x && a.y.eq b.y

end Coord

structure Polygon where
  exterior : List Coord
  interiors : List (List Coord)
deriving DecidableEq, Repr, Inhabited

def closeRing (ring : List Coord) : List Coord :=
  match ring.head?, ring.getLast? with
  | some first, some last => if first.eq last then ring else ring ++ [first]
  | _, _ => ring

def Polygon.closing (exterior : List Coord) (interiors : List (List Coord)) : Polygon :=
  ⟨closeRing exterior, interiors.map closeRing⟩

structure Rect where
  min : Coord
  max : Coord
deriving DecidableEq, Repr, Inhabited

namespace Rect

def ordered (a b : Double) : Double × Double := if a.lt b then (a, b) else (b, a)

def ofCorners (a b : Coord) : Rect :=
  let (xmin, xmax) := ordered a.x b.x
  let (ymin, ymax) := ordered a.y b.y
  ⟨⟨xmin, ymin⟩, ⟨xmax, ymax⟩⟩

/-- The corners counter-clockwise from the one after the smallest, which comes last. -/
def ring (r : Rect) : List Coord :=
  [⟨r.max.x, r.min.y⟩, ⟨r.max.x, r.max.y⟩, ⟨r.min.x, r.max.y⟩, ⟨r.min.x, r.min.y⟩, ⟨r.max.x, r.min.y⟩]

def toPolygon (r : Rect) : Polygon := Polygon.closing r.ring []

end Rect

inductive Geometry
  | point (c : Coord)
  | line (start stop : Coord)
  | lineString (coords : List Coord)
  | polygon (polygon : Polygon)
  | multiPoint (points : List Coord)
  | multiLineString (lines : List (List Coord))
  | multiPolygon (polygons : List Polygon)
  | geometryCollection (members : List Geometry)
  | rect (rect : Rect)
  | triangle (a b c : Coord)
deriving Repr, Inhabited

namespace Geometry

def triangleRing (a b c : Coord) : List Coord := [a, b, c, a]

def signedArea (a b c : Coord) : Double :=
  ((b.x.sub a.x).mul (c.y.sub a.y)).sub ((b.y.sub a.y).mul (c.x.sub a.x))

/-- The triangle with its corners counter-clockwise: clockwise ones are taken in reverse. -/
def upright (a b c : Coord) : Geometry := if (signedArea a b c).lt .zero then .triangle c b a else .triangle a b c

def kind? : Geometry → Option GeometryKind
  | .point _ => some .point
  | .lineString _ => some .lineString
  | .polygon _ => some .polygon
  | .multiPoint _ => some .multiPoint
  | .multiLineString _ => some .multiLineString
  | .multiPolygon _ => some .multiPolygon
  | .geometryCollection _ => some .geometryCollection
  | .line _ _ | .rect _ | .triangle _ _ _ => none

def mapPolygon (f : Coord → Coord) (p : Polygon) : Polygon :=
  Polygon.closing (p.exterior.map f) (p.interiors.map (·.map f))

mutual

/-- Every coordinate moved; rings are closed again, rectangles and triangles set upright again. -/
def mapCoords (f : Coord → Coord) : Geometry → Geometry
  | .point c => .point (f c)
  | .line a b => .line (f a) (f b)
  | .lineString coords => .lineString (coords.map f)
  | .polygon p => .polygon (mapPolygon f p)
  | .multiPoint points => .multiPoint (points.map f)
  | .multiLineString lines => .multiLineString (lines.map (·.map f))
  | .multiPolygon polygons => .multiPolygon (polygons.map (mapPolygon f))
  | .geometryCollection members => .geometryCollection (mapMembers f members)
  | .rect r => .rect (Rect.ofCorners (f r.min) (f r.max))
  | .triangle a b c => upright (f a) (f b) (f c)

def mapMembers (f : Coord → Coord) : List Geometry → List Geometry
  | [] => []
  | g :: rest => mapCoords f g :: mapMembers f rest

end

end Geometry

end FeatureLayers
