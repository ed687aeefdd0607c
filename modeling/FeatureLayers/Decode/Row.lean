import FeatureLayers.Cell.Boundary
import FeatureLayers.Crs.Transform
import FeatureLayers.Decode.Convert
import FeatureLayers.Feature
import FeatureLayers.Query.Compose
import FeatureLayers.Wkb.Reader

namespace FeatureLayers.Decode

def cellOf (value : Value) : Except Fault Cell.Index :=
  match Cell.ofValue? value with
  | some cell => .ok cell
  | none => .error (.malformedCell value.display)

def cellPolygon (value : Value) : Except Fault Polygon := (cellOf value).map Cell.Index.polygon

def readWkb (bytes : List UInt8) : Except Fault Geometry := (Wkb.read bytes).mapError .wkb

def readHex (text : String) : Except Fault (List UInt8) :=
  match Text.Hex.decode (Text.trim text.toList) with
  | .ok bytes => .ok bytes
  | .error .oddLength => .error (.wkb .oddHex)
  | .error .invalid => .error (.wkb .invalidHex)

structure RowDecoder where
  layout : Query.Layout
  converters : List Converter
  encoding : Encoding
  transform : Option Crs.Transform

namespace RowDecoder

def converterOf (fields : List Field) (index : Nat) : Converter :=
  match fields[index]? with
  | some field => .ofType field.attributeType
  | none => .passThrough

def of (layout : Query.Layout) (fields : List Field) (encoding : Encoding) (transform : Option Crs.Transform) :
    RowDecoder :=
  ⟨layout, layout.attributes.map fun (field, _) => converterOf fields field, encoding, transform⟩

def readPayload (encoding : Encoding) : Value → Except Fault (Option Geometry)
  | .null => .ok none
  | payload => match encoding, payload with
    | .cellId, payload => (cellPolygon payload).map fun p => some (.polygon p)
    | _, .binary bytes => (readWkb bytes).map some
    | _, .text text => do
      let bytes ← readHex text
      return some (← readWkb bytes)
    | _, other => .error (.wkb (.notBinary other.display))

def moved (transform : Option Crs.Transform) (g : Geometry) : Geometry :=
  match transform with
  | some t => Crs.transformGeometry t g
  | none => g

def geometryOf (d : RowDecoder) (row : Row) : Except Fault (Option Geometry) :=
  match d.layout.geometry with
  | none => .ok none
  | some column => do
    let geometry ← readPayload d.encoding (row.getD column .null)
    return geometry.map (moved d.transform)

/-- The geometry payload is taken out of the row before attributes are read. -/
def attributeRow (d : RowDecoder) (row : Row) : Row :=
  match d.layout.geometry with
  | none => row
  | some column => row.set column .null

def attributesOf (d : RowDecoder) (row : Row) : Except Fault (List Value) :=
  (d.layout.attributes.zip d.converters).mapM fun ((_, column), converter) =>
    converter.convert (row.getD column .null)

/-- `position` is the row's place in the scan; it stands in for an id that is no integer. -/
def decode (d : RowDecoder) (row : Row) (position : Nat) : Except Fault Feature := do
  if row.length < d.layout.width then .error (.rowWidth d.layout.width row.length)
  else
    let id := ((row.getD d.layout.id .null).asInt?).getD position
    let geometry ← d.geometryOf row
    let attributes ← d.attributesOf (d.attributeRow row)
    return ⟨id, geometry, attributes⟩

end RowDecoder

end FeatureLayers.Decode
