import FeatureLayers.Schema.Encoding
import FeatureLayers.Text.Lowercase

namespace FeatureLayers

structure CatalogColumn where
  name : String
  dataType : String
  comment : Option String
  ordinal : Nat
deriving DecidableEq, Repr, Inhabited

def isMarked (marker comment : String) : Bool :=
  Text.holds (Text.lowercase marker.toList) (Text.lowercase comment.toList)

def isCellCandidate (dataType : String) (comment : Option String) (marker : String) : Bool :=
  let stored := Text.upperText (Text.trimText dataType)
  (stored = "NUMBER" || stored = "TEXT") && comment.any (isMarked marker)

end FeatureLayers
