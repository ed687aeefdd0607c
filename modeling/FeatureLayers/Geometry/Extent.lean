import FeatureLayers.Geometry.Basic

namespace FeatureLayers.Geometry

/-- Widens a range by a number; a number that compares with neither end leaves it. -/
def widen (range : Double × Double) (v : Double) : Double × Double :=
  if range.2.lt v then (range.1, v)
  else if v.lt range.1 then (v, range.2)
  else range

def extentOfCoords : List Coord → Option Rect
  | [] => none
  | c :: rest =>
    let xs := rest.foldl (fun range d => widen range d.x) (c.x, c.x)
    let ys := rest.foldl (fun range d => widen range d.y) (c.y, c.y)
    some (Rect.ofCorners ⟨xs.1, ys.1⟩ ⟨xs.2, ys.2⟩)

def lower (a b : Double) : Double := if a.lt b then a else b

def upper (a b : Double) : Double := if b.lt a then a else b

def mergeExtents (a b : Rect) : Rect :=
  Rect.ofCorners ⟨lower a.min.x b.min.x, lower a.min.y b.min.y⟩ ⟨upper a.max.x b.max.x, upper a.max.y b.max.y⟩

def mergeExtents? : Option Rect → Option Rect → Option Rect
  | some a, some b => some (mergeExtents a b)
  | a, b => a.or b

mutual

def extent? : Geometry → Option Rect
  | .point c => some (Rect.ofCorners c c)
  | .line a b => some (Rect.ofCorners a b)
  | .lineString coords => extentOfCoords coords
  | .polygon p => extentOfCoords p.exterior
  | .multiPoint points => extentOfCoords points
  | .multiLineString lines => extentOfCoords lines.flatten
  | .multiPolygon polygons => extentOfCoords (polygons.flatMap (·.exterior))
  | .geometryCollection members => extentOfMembers none members
  | .rect r => some r
  | .triangle a b c => extentOfCoords [a, b, c]

def extentOfMembers (done : Option Rect) : List Geometry → Option Rect
  | [] => done
  | g :: rest => extentOfMembers (mergeExtents? done (extent? g)) rest

end

end FeatureLayers.Geometry
