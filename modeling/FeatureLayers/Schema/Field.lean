import FeatureLayers.Schema.AttributeType
import FeatureLayers.Schema.GeometryKind

namespace FeatureLayers

structure Column where
  name : String
  typeCode : TypeCode
  ordinal : Nat
deriving DecidableEq, Repr, Inhabited

structure Field where
  name : String
  typeName : String
  attributeType : AttributeType
deriving DecidableEq, Repr, Inhabited

namespace Field

def ofTypeName (name typeName : String) : Field := ⟨name, typeName, .ofTypeName typeName⟩

def ofColumn (column : Column) : Field := ⟨column.name, column.typeCode.name, column.typeCode.attributeType⟩

/-- The field of that name, else the first whose name differs in the case of ASCII letters only. -/
def index? (fields : List Field) (name : String) : Option Nat :=
  (fields.findIdx? (·.name = name)).or
    (fields.findIdx? fun field => Text.lowerText field.name = Text.lowerText name)

end Field

structure GeometryColumn where
  column : String
  encoding : Encoding
  kind : Option GeometryKind
  srid : Option Int
deriving DecidableEq, Repr, Inhabited

namespace GeometryColumn

/-- The kind of the features' geometries: cells are shown by their boundary. -/
def featureKind? (spec : GeometryColumn) : Option GeometryKind :=
  match spec.encoding with
  | .cellId => some .polygon
  | _ => spec.kind

end GeometryColumn

end FeatureLayers
