import FeatureLayers.Decode.Fault
import FeatureLayers.Source.Uri
import FeatureLayers.Warehouse.Error

namespace FeatureLayers.Layer

inductive Error
  | warehouse (error : Warehouse.Error)
  | missingGeometryColumn
  | unsupportedTransform (source target : Int)
  | invalidSource (reason : String)
  | uri (fault : Uri.Fault)
  | decode (fault : Decode.Fault)
  | unknownField (name : String)
  | cancelled
deriving DecidableEq, Repr

def Error.message : Error → String
  | .warehouse error => error.display
  | .missingGeometryColumn => "No geometry column is resolved for this source"
  | .unsupportedTransform source target =>
    "No coordinate transform from EPSG:" ++ intText source ++ " to EPSG:" ++ intText target
  | .invalidSource reason => "Invalid source: " ++ reason
  | .uri fault => fault.message
  | .decode fault => fault.message
  | .unknownField name => "Unknown field: " ++ name
  | .cancelled => "Cancelled"

end FeatureLayers.Layer
