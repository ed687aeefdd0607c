import FeatureLayers.Crs.Transform
import FeatureLayers.Feature
import FeatureLayers.Geometry.Intersection

namespace FeatureLayers

structure Selection where
  ids : Option (List Int)
  /-- In the system of the source. -/
  box : Option BoundingBox
  attributes : Option (List Nat)
  noGeometry : Bool
deriving DecidableEq, Repr, Inhabited

namespace Selection

def admitsId (s : Selection) (id : Int) : Bool :=
  match s.ids with
  | some ids => ids.contains id
  | none => true

/-- A feature without geometry meets no box. -/
def admitsGeometry (s : Selection) (geometry : Option Geometry) : Bool :=
  match s.box with
  | some box => geometry.any fun g => g.meetsRect box.toRect
  | none => true

def admits (s : Selection) (f : Feature) : Bool := s.admitsId f.id && s.admitsGeometry f.geometry

def attributesOf (s : Selection) (f : Feature) : List Value :=
  match s.attributes with
  | some indexes => indexes.filterMap fun i => f.attributes[i]?
  | none => f.attributes

def geometryOf (s : Selection) (transform : Option Crs.Transform) (f : Feature) : Option Geometry :=
  if s.noGeometry then none
  else match transform with
    | some t => f.geometry.map (Crs.transformGeometry t)
    | none => f.geometry

def shape (s : Selection) (transform : Option Crs.Transform) (f : Feature) : Feature :=
  ⟨f.id, s.geometryOf transform f, s.attributesOf f⟩

end Selection

end FeatureLayers
