import FeatureLayers.Document.Feature
import FeatureLayers.Geometry.Wkt

namespace FeatureLayers.Feature

def namedAttributes (names : List String) (f : Feature) : List (String × Json) :=
  (names.zip f.attributes).map fun (name, value) => (name, value.toJson)

def toNamedJson (names : List String) (f : Feature) : Json :=
  .object [("id", .int f.id), ("geometry", Json.orNull (fun g => .string (Geometry.Wkt.write g)) f.geometry),
    ("attributes", .object (f.namedAttributes names))]

/-- Members are in the order of their names; of attributes with the same name the last one counts. -/
def line (names : List String) (f : Feature) : String := (f.toNamedJson names).sorted.compact

end FeatureLayers.Feature
