import FeatureLayers.Geometry.BoundingBox

namespace FeatureLayers.Crs

structure Transform where
  source : Int
  target : Int
  forward : Coord → Coord
  inverse : Coord → Coord

namespace Transform

def inverted (t : Transform) : Transform := ⟨t.target, t.source, t.inverse, t.forward⟩

def affine (source target : Int) (scale dx dy : Double) : Transform where
  source := source
  target := target
  forward c := ⟨(c.x.mul scale).add dx, (c.y.mul scale).add dy⟩
  inverse c := ⟨(c.x.sub dx).div scale, (c.y.sub dy).div scale⟩

end Transform

def pi : Float := 3.14159265358979323846

def earthRadius : Float := 6378137

def maxLatitude : Float := 85.05112877980659

def clampLatitude (lat : Float) : Float :=
  if lat < -maxLatitude then -maxLatitude else if lat > maxLatitude then maxLatitude else lat

def degreesToMetres (c : Coord) : Coord :=
  let lng := c.x.toFloat * (pi / 180)
  let lat := clampLatitude c.y.toFloat * (pi / 180)
  ⟨.ofFloat (earthRadius * lng), .ofFloat (earthRadius * Float.log (Float.tan (pi / 4 + lat / 2)))⟩

def metresToDegrees (c : Coord) : Coord :=
  let lng := c.x.toFloat / earthRadius
  let lat := 2 * Float.atan (Float.exp (c.y.toFloat / earthRadius)) - pi / 2
  ⟨.ofFloat (lng * (180 / pi)), .ofFloat (lat * (180 / pi))⟩

def wgs84 : Int := 4326

def webMercatorSrid : Int := 3857

def webMercator : Transform := ⟨wgs84, webMercatorSrid, degreesToMetres, metresToDegrees⟩

abbrev Registry := List Transform

namespace Transform

def directed? (t : Transform) (source target : Int) : Option Transform :=
  if t.source = source ∧ t.target = target then some t
  else if t.source = target ∧ t.target = source then some t.inverted
  else none

end Transform

inductive Route
  | notNeeded
  | via (t : Transform)
  | unsupported (source target : Int)

/-- No transform is needed between equal systems or when one is unknown. -/
def Registry.between (registry : Registry) (source target : Option Int) : Route :=
  match source, target with
  | some s, some t =>
    if s = t then .notNeeded
    else match (registry ++ [webMercator]).findSome? (·.directed? s t) with
      | some found => .via found
      | none => .unsupported s t
  | _, _ => .notNeeded

def transformGeometry (t : Transform) (g : Geometry) : Geometry := g.mapCoords t.forward

def boxSamples (b : BoundingBox) : List Coord :=
  let xmid := (b.xmin.add b.xmax).half
  let ymid := (b.ymin.add b.ymax).half
  [⟨b.xmin, b.ymin⟩, ⟨b.xmax, b.ymin⟩, ⟨b.xmax, b.ymax⟩, ⟨b.xmin, b.ymax⟩,
    ⟨xmid, b.ymin⟩, ⟨xmid, b.ymax⟩, ⟨b.xmin, ymid⟩, ⟨b.xmax, ymid⟩]

def boxAround : List Coord → Option BoundingBox
  | [] => none
  | c :: rest => some (rest.foldl (fun box d => box.union (.ofCoord d)) (.ofCoord c))

def boxToSource (b : BoundingBox) (t : Transform) : BoundingBox :=
  (boxAround ((boxSamples b).map t.inverse)).getD b

end FeatureLayers.Crs
