import FeatureLayers.Geometry.Basic
import FeatureLayers.Geometry.Extent

namespace FeatureLayers

inductive Orientation
  | clockwise
  | collinear
  | counterClockwise
deriving DecidableEq, Repr

namespace Orientation

def ofSign (n : Int) : Orientation :=
  if n < 0 then .clockwise else if 0 < n then .counterClockwise else .collinear

def exactDeterminant (a b c : Coord) : Int :=
  (a.x.scaled - c.x.scaled) * (b.y.scaled - c.y.scaled) - (a.y.scaled - c.y.scaled) * (b.x.scaled - c.x.scaled)

def products (a b c : Coord) : Double × Double :=
  ((a.x.sub c.x).mul (b.y.sub c.y), (a.y.sub c.y).mul (b.x.sub c.x))

def ofProducts (left right : Double) : Orientation :=
  let determinant := left.sub right
  if (left.add right).isNaN || determinant.isNaN || determinant.isZero then .collinear
  else if determinant.negative then .clockwise
  else .counterClockwise

/-- The side is that of exact arithmetic as long as both products are finite. Else they are subtracted in floats, and a
difference without a sign counts as collinear. -/
def of (a b c : Coord) : Orientation :=
  let (left, right) := products a b c
  if left.isFinite && right.isFinite then ofSign (exactDeterminant a b c) else ofProducts left right

end Orientation

namespace Geometry

def between (v a b : Double) : Bool := if a.lt b then a.le v && v.le b else b.le v && v.le a

def inSpan (c a b : Coord) : Bool := between c.x a.x b.x && between c.y a.y b.y

structure Segment where
  start : Coord
  stop : Coord
deriving DecidableEq, Repr

namespace Segment

def meetsCoord (s : Segment) (c : Coord) : Bool :=
  Orientation.of s.start s.stop c == .collinear && inSpan c s.start s.stop

/-- Two segments meet when each has its ends on different sides of the other, or when they overlap on one line. -/
def meets (s t : Segment) : Bool :=
  if s.start.eq s.stop then t.meetsCoord s.start
  else
    let first := Orientation.of s.start s.stop t.start
    let second := Orientation.of s.start s.stop t.stop
    if first != second then
      Orientation.of t.start t.stop s.start != Orientation.of t.start t.stop s.stop
    else if first == .collinear then
      inSpan t.start s.start s.stop || inSpan t.stop s.start s.stop || inSpan s.stop t.start t.stop
    else false

end Segment

def segments : List Coord → List Segment
  | a :: b :: rest => ⟨a, b⟩ :: segments (b :: rest)
  | _ => []

end Geometry

namespace Rect

open FeatureLayers.Geometry

def meetsCoord (r : Rect) (c : Coord) : Bool :=
  r.min.x.le c.x && r.min.y.le c.y && c.x.le r.max.x && c.y.le r.max.y

def apart (r s : Rect) : Bool :=
  r.max.x.lt s.min.x || r.max.y.lt s.min.y || s.max.x.lt r.min.x || s.max.y.lt r.min.y

def sides (r : Rect) : List Segment :=
  let corner : Coord := ⟨r.min.x, r.max.y⟩
  let opposite : Coord := ⟨r.max.x, r.min.y⟩
  [⟨r.min, opposite⟩, ⟨opposite, r.max⟩, ⟨corner, r.max⟩, ⟨r.min, corner⟩]

def meetsSegment (r : Rect) (s : Segment) : Bool :=
  r.meetsCoord s.start || r.meetsCoord s.stop || r.sides.any (·.meets s)

end Rect

namespace Geometry

def apart? : Option Rect → Option Rect → Bool
  | some a, some b => a.apart b
  | _, _ => false

inductive Location
  | outside
  | boundary
  | inside
deriving DecidableEq, Repr

def windingStep (c : Coord) (winding? : Option Int) (s : Segment) : Option Int :=
  winding?.bind fun winding =>
    if s.start.y.le c.y then
      if c.y.le s.stop.y then
        let side := Orientation.of s.start s.stop c
        if side == .counterClockwise && !s.stop.y.eq c.y then some (winding + 1)
        else if side == .collinear && between c.x s.start.x s.stop.x then none
        else some winding
      else some winding
    else if s.stop.y.le c.y then
      let side := Orientation.of s.start s.stop c
      if side == .clockwise then some (winding - 1)
      else if side == .collinear && between c.x s.start.x s.stop.x then none
      else some winding
    else some winding

def locateInRing (c : Coord) : List Coord → Location
  | [] => .outside
  | [only] => if c.eq only then .boundary else .outside
  | ring => match (segments ring).foldl (windingStep c) (some 0) with
    | none => .boundary
    | some 0 => .outside
    | some _ => .inside

/-- The location in the interior of the exterior ring, given the holes: the first hole that does not exclude decides. -/
def locateAmongHoles (c : Coord) : List (List Coord) → Location
  | [] => .inside
  | hole :: rest => match locateInRing c hole with
    | .outside => locateAmongHoles c rest
    | .boundary => .boundary
    | .inside => .outside

def locateInPolygon (c : Coord) (p : Polygon) : Location :=
  match locateInRing c p.exterior with
  | .inside => locateAmongHoles c p.interiors
  | location => location

def polygonMeetsCoord (p : Polygon) (c : Coord) : Bool := locateInPolygon c p != .outside

def chainMeetsSegment (chain : List Coord) (s : Segment) : Bool :=
  !apart? (extentOfCoords chain) (some (Rect.ofCorners s.start s.stop)) && (segments chain).any (·.meets s)

def polygonMeetsSegment (p : Polygon) (s : Segment) : Bool :=
  chainMeetsSegment p.exterior s || p.interiors.any (chainMeetsSegment · s) ||
    polygonMeetsCoord p s.start || polygonMeetsCoord p s.stop

def polygonMeetsChain (p : Polygon) (chain : List Coord) : Bool :=
  !apart? (extentOfCoords chain) (extentOfCoords p.exterior) && (segments chain).any (polygonMeetsSegment p)

def polygonMeetsPolygon (p q : Polygon) : Bool :=
  !apart? (extentOfCoords p.exterior) (extentOfCoords q.exterior) &&
    (polygonMeetsChain p q.exterior || q.interiors.any (polygonMeetsChain p) || polygonMeetsChain q p.exterior)

def polygonMeetsRect (p : Polygon) (r : Rect) : Bool := polygonMeetsPolygon p r.toPolygon

def chainMeetsRect (chain : List Coord) (r : Rect) : Bool :=
  !apart? (extentOfCoords chain) (some r) && (segments chain).any r.meetsSegment

mutual

def meetsRect (r : Rect) : Geometry → Bool
  | .point c => r.meetsCoord c
  | .line a b => r.meetsSegment ⟨a, b⟩
  | .lineString coords => chainMeetsRect coords r
  | .polygon p => polygonMeetsRect p r
  | .multiPoint points => points.any r.meetsCoord
  | .multiLineString lines =>
    !apart? (extentOfCoords lines.flatten) (some r) && lines.any (chainMeetsRect · r)
  | .multiPolygon polygons =>
    !apart? (extentOfCoords (polygons.flatMap (·.exterior))) (some r) && polygons.any (polygonMeetsRect · r)
  | .geometryCollection members =>
    !apart? (extentOfMembers none members) (some r) && anyMeetsRect r members
  | .rect s => !s.apart r
  | .triangle a b c => polygonMeetsRect (Polygon.closing (triangleRing a b c) []) r

def anyMeetsRect (r : Rect) : List Geometry → Bool
  | [] => false
  | g :: rest => meetsRect r g || anyMeetsRect r rest

end

end Geometry

end FeatureLayers
