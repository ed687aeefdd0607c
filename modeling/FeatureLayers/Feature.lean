import FeatureLayers.Geometry.BoundingBox
import FeatureLayers.Value

namespace FeatureLayers

structure Feature where
  id : Int
  geometry : Option Geometry
  attributes : List Value
deriving Repr, Inhabited

/-- Which features are wanted, and how. A rectangle is given in the destination system. -/
structure Request where
  filterRect : Option BoundingBox
  expression : Option String
  featureIds : Option (List Int)
  attributes : Option (List String)
  noGeometry : Bool
  destinationSrid : Option Int
deriving DecidableEq, Repr, Inhabited

namespace Request

def all : Request := ⟨none, none, none, none, false, none⟩

def isUnfiltered (r : Request) : Bool :=
  r.filterRect.isNone && r.expression.isNone && r.featureIds.isNone && r.attributes.isNone && !r.noGeometry

end Request

end FeatureLayers
