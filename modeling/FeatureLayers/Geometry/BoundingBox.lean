import FeatureLayers.Geometry.Basic
import FeatureLayers.Numeric.Printing

namespace FeatureLayers

structure BoundingBox where
  xmin : Double
  ymin : Double
  xmax : Double
  ymax : Double
deriving DecidableEq, Repr, Inhabited

namespace BoundingBox

def normalized (a b c d : Double) : BoundingBox := ⟨a.min c, b.min d, a.max c, b.max d⟩

def isEmpty (b : BoundingBox) : Bool := b.xmin.eq b.xmax && b.ymin.eq b.ymax

def union (a b : BoundingBox) : BoundingBox :=
  ⟨a.xmin.min b.xmin, a.ymin.min b.ymin, a.xmax.max b.xmax, a.ymax.max b.ymax⟩

def ofCoord (c : Coord) : BoundingBox := normalized c.x c.y c.x c.y

def toRect (b : BoundingBox) : Rect := Rect.ofCorners ⟨b.xmin, b.ymin⟩ ⟨b.xmax, b.ymax⟩

def toWkt (b : BoundingBox) : String :=
  let xmin := b.xmin.toText
  let ymin := b.ymin.toText
  let xmax := b.xmax.toText
  let ymax := b.ymax.toText
  "POLYGON((" ++ xmin ++ " " ++ ymin ++ ", " ++ xmax ++ " " ++ ymin ++ ", " ++ xmax ++ " " ++ ymax ++ ", " ++
    xmin ++ " " ++ ymax ++ ", " ++ xmin ++ " " ++ ymin ++ "))"

end BoundingBox

end FeatureLayers
