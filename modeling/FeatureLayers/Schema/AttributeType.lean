import FeatureLayers.Schema.Encoding

namespace FeatureLayers

inductive AttributeType
  | bool
  | int
  | double
  | text
  | date
  | time
  | dateTime
  | binary
  | list
  | vector
deriving DecidableEq, Repr, Inhabited

namespace AttributeType

def all : List AttributeType := [.bool, .int, .double, .text, .date, .time, .dateTime, .binary, .list, .vector]

def name : AttributeType → String
  | .bool => "Bool"
  | .int => "Int"
  | .double => "Double"
  | .text => "Text"
  | .date => "Date"
  | .time => "Time"
  | .dateTime => "DateTime"
  | .binary => "Binary"
  | .list => "List"
  | .vector => "Vector"

def ofName? (name : String) : Option AttributeType := all.find? (·.name = name)

def ofTypeName (typeName : String) : AttributeType :=
  match Text.upperText (Text.trimText typeName) with
  | "BIGINT" | "INTEGER" | "INT" | "SMALLINT" | "TINYINT" => .int
  | "BOOLEAN" | "BOOL" => .bool
  | "DATE" => .date
  | "TIME" => .time
  | "NUMBER" | "DOUBLE" | "FLOAT" | "REAL" | "DECIMAL" | "NUMERIC" => .double
  | "TIMESTAMP" | "TIMESTAMP_LTZ" | "TIMESTAMP_NTZ" | "TIMESTAMP_TZ" | "DATETIME" => .dateTime
  | "ARRAY" => .list
  | "BINARY" | "BLOB" => .binary
  | _ => .text

def needsConversion : AttributeType → Bool
  | .date | .time | .dateTime | .double => true
  | _ => false

end AttributeType

inductive TypeCode
  | fixed
  | real
  | text
  | date
  | timestamp
  | variant
  | timestampLtz
  | timestampTz
  | timestampNtz
  | object
  | array
  | binary
  | time
  | boolean
  | geography
  | geometry
  | vector
deriving DecidableEq, Repr, Inhabited

namespace TypeCode

def all : List TypeCode :=
  [.fixed, .real, .text, .date, .timestamp, .variant, .timestampLtz, .timestampTz, .timestampNtz, .object, .array,
    .binary, .time, .boolean, .geography, .geometry, .vector]

def code (t : TypeCode) : Nat := all.idxOf t

def ofCode (code : Int) : TypeCode := if 0 ≤ code then all.getD code.toNat .text else .text

def name : TypeCode → String
  | .fixed => "FIXED"
  | .real => "REAL"
  | .text => "TEXT"
  | .date => "DATE"
  | .timestamp => "TIMESTAMP"
  | .variant => "VARIANT"
  | .timestampLtz => "TIMESTAMP_LTZ"
  | .timestampTz => "TIMESTAMP_TZ"
  | .timestampNtz => "TIMESTAMP_NTZ"
  | .object => "OBJECT"
  | .array => "ARRAY"
  | .binary => "BINARY"
  | .time => "TIME"
  | .boolean => "BOOLEAN"
  | .geography => "GEOGRAPHY"
  | .geometry => "GEOMETRY"
  | .vector => "VECTOR"

def documentName : TypeCode → String
  | .fixed => "Fixed"
  | .real => "Real"
  | .text => "Text"
  | .date => "Date"
  | .timestamp => "Timestamp"
  | .variant => "Variant"
  | .timestampLtz => "TimestampLtz"
  | .timestampTz => "TimestampTz"
  | .timestampNtz => "TimestampNtz"
  | .object => "Object"
  | .array => "Array"
  | .binary => "Binary"
  | .time => "Time"
  | .boolean => "Boolean"
  | .geography => "Geography"
  | .geometry => "Geometry"
  | .vector => "Vector"

def ofDocumentName? (name : String) : Option TypeCode := all.find? (·.documentName = name)

def attributeType : TypeCode → AttributeType
  | .fixed | .real => .double
  | .date => .date
  | .timestamp | .timestampLtz | .timestampTz | .timestampNtz => .dateTime
  | .time => .time
  | .boolean => .bool
  | .binary => .binary
  | .vector => .vector
  | .text | .variant | .object | .array | .geography | .geometry => .text

def encoding? : TypeCode → Option Encoding
  | .geography => some .geography
  | .geometry => some .geometry
  | _ => none

def canHoldCellId : TypeCode → Bool
  | .fixed | .text => true
  | _ => false

end TypeCode

end FeatureLayers
