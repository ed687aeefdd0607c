import FeatureLayers.Schema.AttributeType
import FeatureLayers.Wkb.Word
import FeatureLayers.Numeric.Printing

namespace FeatureLayers

def Wkb.Fault.message : Wkb.Fault → String
  | .endOfData => "unexpected end of data"
  | .byteOrder byte => "invalid byte order " ++ intText byte.toNat
  | .unknownType code => "unknown geometry type " ++ intText code
  | .countTooLarge count remaining =>
    "count " ++ intText count ++ " exceeds remaining " ++ intText remaining ++ " bytes"
  | .emptyPoint => "empty point"
  | .memberNotPoint => "MultiPoint member is not a point"
  | .memberNotLineString => "MultiLineString member is not a linestring"
  | .memberNotPolygon => "MultiPolygon member is not a polygon"
  | .tooDeep => "geometry nested too deeply"
  | .trailing count => intText count ++ " trailing bytes"
  | .oddHex => "odd-length hex payload"
  | .invalidHex => "invalid hex payload"
  | .notBinary shown => "expected binary payload, got " ++ shown

namespace Decode

inductive Fault
  | wkb (fault : Wkb.Fault)
  | malformedCell (shown : String)
  | conversion (shown : String) (target : AttributeType)
  | rowWidth (expected actual : Nat)
deriving DecidableEq, Repr

def Fault.message : Fault → String
  | .wkb fault => "Invalid WKB: " ++ fault.message
  | .malformedCell shown => "Malformed cell identifier: " ++ shown
  | .conversion shown target => "Cannot convert `" ++ shown ++ "` to " ++ target.name
  | .rowWidth expected actual => "Row has " ++ intText actual ++ " columns, expected " ++ intText expected

end Decode

end FeatureLayers
