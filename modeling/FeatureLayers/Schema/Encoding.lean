import FeatureLayers.Text.Blank

namespace FeatureLayers

inductive Encoding
  | geometry
  | geography
  | cellId
deriving DecidableEq, Repr, Inhabited

namespace Encoding

def name : Encoding → String
  | .geometry => "GEOMETRY"
  | .geography => "GEOGRAPHY"
  | .cellId => "CELL_ID"

def ofDeclaredType? (typeName : String) : Option Encoding :=
  match Text.upperText (Text.trimText typeName) with
  | "GEOMETRY" => some .geometry
  | "GEOGRAPHY" => some .geography
  | _ => none

/-- Layer descriptors also name a cell column by the type that stores it. -/
def ofStoredName? (name : String) : Option Encoding :=
  match Text.upperText (Text.trimText name) with
  | "GEOMETRY" => some .geometry
  | "GEOGRAPHY" => some .geography
  | "CELL_ID" | "NUMBER" | "TEXT" | "H3GEO" => some .cellId
  | _ => none

def isVector : Encoding → Bool
  | .cellId => false
  | _ => true

end Encoding

end FeatureLayers
