import FeatureLayers.Json.Basic
import FeatureLayers.Json.Record
import FeatureLayers.Settings
import FeatureLayers.Source.Descriptor
import FeatureLayers.Warehouse.Command

namespace FeatureLayers

open Json (Node Record optionalMember)

namespace GeometryKind

def toJson (k : GeometryKind) : Json := .string k.name

def ofNode? (node : Node) : Option GeometryKind := node.choice?.bind ofName?

end GeometryKind

namespace AttributeType

def toJson (t : AttributeType) : Json := .string t.name

def ofNode? (node : Node) : Option AttributeType := node.choice?.bind ofName?

end AttributeType

namespace TypeCode

def toJson (t : TypeCode) : Json := .string t.documentName

def ofNode? (node : Node) : Option TypeCode := node.choice?.bind ofDocumentName?

end TypeCode

namespace Encoding

def documentName : Encoding → String
  | .geometry => "Geometry"
  | .geography => "Geography"
  | .cellId => "CellId"

def ofDocumentName? (name : String) : Option Encoding :=
  [geometry, geography, cellId].find? (·.documentName = name)

def toJson (e : Encoding) : Json := .string e.documentName

def ofNode? (node : Node) : Option Encoding := node.choice?.bind ofDocumentName?

end Encoding

namespace Source

def tagged (tag : String) (members : List (String × Json)) : Json := .object (("type", .string tag) :: members)

def toJson : Source → Json
  | .table schema name => tagged "table" (optionalMember "schema" .string schema ++ [("name", .string name)])
  | .query sql => tagged "query" [("sql", .string sql)]

def splitTag? : Node → Option (String × Node)
  | .array (tag :: rest) => tag.text?.map (·, .array rest)
  | .object members => match members.partition (·.1 = some "type") with
    | ([(_, tag)], rest) => tag.text?.map (·, .object rest)
    | _ => none
  | _ => none

def ofTagged? (tag : String) (content : Node) : Option Source :=
  match tag with
  | "table" => do
    let record ← Record.ofNode? ["schema", "name"] content
    return .table (← record.optional "schema" Node.text?) (← record.required "name" Node.text?)
  | "query" => do
    let record ← Record.ofNode? ["sql"] content
    return .query (← record.required "sql" Node.text?)
  | _ => none

/-- Members without meaning must have values, too. `depth` is the number of arrays and objects around the source. -/
def ofNode? (depth : Nat) (node : Node) : Option Source :=
  if node.hasValues && depth + node.nesting ≤ Json.maxNesting then do
    let (tag, content) ← splitTag? node
    ofTagged? tag content
  else none

end Source

namespace Descriptor

def toJson (d : Descriptor) : Json := .object <|
  [("connection", .string d.connection), ("source", d.source.toJson)] ++
    optionalMember "geometry_column" .string d.geometryColumn ++
    optionalMember "geometry_kind" GeometryKind.toJson d.geometryKind ++
    optionalMember "encoding" Encoding.toJson d.encoding ++ optionalMember "srid" .int d.srid ++
    optionalMember "primary_key" .string d.primaryKey

def memberNames : List String :=
  ["connection", "source", "geometry_column", "geometry_kind", "encoding", "srid", "primary_key"]

def ofNode? (node : Node) : Option Descriptor := do
  let record ← Record.ofNode? memberNames node
  return {
    connection := ← record.required "connection" Node.text?
    source := ← record.required "source" (Source.ofNode? 1)
    geometryColumn := ← record.optional "geometry_column" Node.text?
    geometryKind := ← record.optional "geometry_kind" GeometryKind.ofNode?
    encoding := ← record.optional "encoding" Encoding.ofNode?
    srid := ← record.optional "srid" Node.int32?
    primaryKey := ← record.optional "primary_key" Node.text?
  }

end Descriptor

namespace GeometryColumn

def toJson (spec : GeometryColumn) : Json := .object <|
  [("column", .string spec.column), ("encoding", spec.encoding.toJson)] ++
    optionalMember "kind" GeometryKind.toJson spec.kind ++ optionalMember "srid" .int spec.srid

def ofNode? (node : Node) : Option GeometryColumn := do
  let record ← Record.ofNode? ["column", "encoding", "kind", "srid"] node
  return {
    column := ← record.required "column" Node.text?
    encoding := ← record.required "encoding" Encoding.ofNode?
    kind := ← record.optional "kind" GeometryKind.ofNode?
    srid := ← record.optional "srid" Node.int32?
  }

end GeometryColumn

namespace Field

def toJson (f : Field) : Json :=
  .object [("name", .string f.name), ("type_name", .string f.typeName), ("attribute_type", f.attributeType.toJson)]

def ofNode? (node : Node) : Option Field := do
  let record ← Record.ofNode? ["name", "type_name", "attribute_type"] node
  return {
    name := ← record.required "name" Node.text?
    typeName := ← record.required "type_name" Node.text?
    attributeType := ← record.required "attribute_type" AttributeType.ofNode?
  }

end Field

namespace Column

def toJson (c : Column) : Json :=
  .object [("name", .string c.name), ("type_code", c.typeCode.toJson), ("ordinal", .int c.ordinal)]

def ofNode? (node : Node) : Option Column := do
  let record ← Record.ofNode? ["name", "type_code", "ordinal"] node
  return {
    name := ← record.required "name" Node.text?
    typeCode := ← record.required "type_code" TypeCode.ofNode?
    ordinal := ← record.required "ordinal" Node.nat64?
  }

end Column

namespace Settings

def toJson (s : Settings) : Json :=
  .object [("batch_size", .int s.batchSize), ("geometry_row_cap", .int s.geometryRowCap),
    ("cell_row_cap", .int s.cellRowCap), ("preview_limit", .int s.previewLimit), ("cell_marker", .string s.cellMarker)]

def memberNames : List String := ["batch_size", "geometry_row_cap", "cell_row_cap", "preview_limit", "cell_marker"]

def ofNode? (node : Node) : Option Settings := do
  let record ← Record.ofNode? memberNames node
  return {
    batchSize := ← record.withDefault "batch_size" standard.batchSize Node.nat64?
    geometryRowCap := ← record.withDefault "geometry_row_cap" standard.geometryRowCap Node.nat64?
    cellRowCap := ← record.withDefault "cell_row_cap" standard.cellRowCap Node.nat64?
    previewLimit := ← record.withDefault "preview_limit" standard.previewLimit Node.nat64?
    cellMarker := ← record.withDefault "cell_marker" standard.cellMarker Node.text?
  }

end Settings

namespace Warehouse.Context

def toJson (c : Context) : Json :=
  .object (optionalMember "database" .string c.database ++ optionalMember "schema" .string c.schema)

def ofNode? (node : Node) : Option Context := do
  let record ← Record.ofNode? ["database", "schema"] node
  return ⟨← record.optional "database" Node.text?, ← record.optional "schema" Node.text?⟩

end Warehouse.Context

end FeatureLayers
