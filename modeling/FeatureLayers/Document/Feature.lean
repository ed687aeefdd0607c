import FeatureLayers.Document.Geometry
import FeatureLayers.Feature
import FeatureLayers.Json.Basic
import FeatureLayers.Json.Record

namespace FeatureLayers

open Json (Node Record optionalMember)

namespace Value

def toJson : Value → Json
  | .null => .null
  | .bool b => .bool b
  | .int n => .int n
  | .double x => .double x
  | .dateTime d => .string (String.ofList d.isoChars)
  | .date d => .string (String.ofList d.chars)
  | .time t => .string (String.ofList t.chars)
  | .text s => .string s
  | .binary bytes => .array (bytes.map fun b => .int b.toNat)

def ofText (text : String) : Value :=
  let chars := text.toList
  match Calendar.documentDateTime? chars, Calendar.documentDate? chars, Calendar.documentTime? chars with
  | some d, _, _ => .dateTime d
  | none, some d, _ => .date d
  | none, none, some t => .time t
  | none, none, none => .text text

def ofNode? (node : Node) : Option Value :=
  match node with
  | .null => some .null
  | .bool b => some (.bool b)
  | .number _ => (node.int64?.map .int).or (node.double?.map .double)
  | .string written => written.map ofText
  | .array items => (items.mapM Node.byte?).map .binary
  | .object _ => none

end Value

namespace BoundingBox

def toJson (b : BoundingBox) : Json :=
  .object [("xmin", .double b.xmin), ("ymin", .double b.ymin), ("xmax", .double b.xmax), ("ymax", .double b.ymax)]

/-- The sides are taken as they are. -/
def ofNode? (node : Node) : Option BoundingBox := do
  let record ← Record.ofNode? ["xmin", "ymin", "xmax", "ymax"] node
  return {
    xmin := ← record.required "xmin" Node.double?
    ymin := ← record.required "ymin" Node.double?
    xmax := ← record.required "xmax" Node.double?
    ymax := ← record.required "ymax" Node.double?
  }

end BoundingBox

namespace Request

def toJson (r : Request) : Json := .object <|
  optionalMember "filter_rect" BoundingBox.toJson r.filterRect ++
    optionalMember "expression" .string r.expression ++
    optionalMember "feature_ids" (fun ids => .array (ids.map .int)) r.featureIds ++
    optionalMember "subset_of_attributes" (fun names => .array (names.map .string)) r.attributes ++
    [("no_geometry", .bool r.noGeometry)] ++ optionalMember "destination_srid" .int r.destinationSrid

def memberNames : List String :=
  ["filter_rect", "expression", "feature_ids", "subset_of_attributes", "no_geometry", "destination_srid"]

def ofNode? (node : Node) : Option Request := do
  let record ← Record.ofNode? memberNames node
  return {
    filterRect := ← record.optional "filter_rect" BoundingBox.ofNode?
    expression := ← record.optional "expression" Node.text?
    featureIds := ← record.optional "feature_ids" (Node.list? Node.int64?)
    attributes := ← record.optional "subset_of_attributes" (Node.list? Node.text?)
    noGeometry := ← record.withDefault "no_geometry" false Node.bool?
    destinationSrid := ← record.optional "destination_srid" Node.int32?
  }

end Request

namespace Feature

def toJson (f : Feature) : Json :=
  .object [("id", .int f.id), ("geometry", Json.orNull Geometry.toJson f.geometry),
    ("attributes", .array (f.attributes.map Value.toJson))]

def ofNode? (node : Node) : Option Feature := do
  let record ← Record.ofNode? ["id", "geometry", "attributes"] node
  return {
    id := ← record.required "id" Node.int64?
    geometry := ← record.optional "geometry" (Geometry.ofNode? 1)
    attributes := ← record.required "attributes" (Node.list? Value.ofNode?)
  }

end Feature

end FeatureLayers
