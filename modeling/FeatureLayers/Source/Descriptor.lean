import FeatureLayers.Source.Basic
import FeatureLayers.Schema.Field

namespace FeatureLayers

structure Descriptor where
  connection : String
  source : Source
  geometryColumn : Option String
  geometryKind : Option GeometryKind
  encoding : Option Encoding
  srid : Option Int
  primaryKey : Option String
deriving DecidableEq, Repr, Inhabited

namespace Descriptor

def ofSource (connection : String) (source : Source) : Descriptor :=
  ⟨connection, source, none, none, none, none, none⟩

def geographySrid : Int := 4326

/-- The geometry column, when the descriptor says enough about it that the warehouse need not be asked. -/
def declaredColumn? (d : Descriptor) : Option GeometryColumn :=
  match d.geometryColumn, d.encoding with
  | some column, some .cellId => some ⟨column, .cellId, none, some (d.srid.getD geographySrid)⟩
  | some column, some .geography => d.geometryKind.map fun kind =>
    ⟨column, .geography, some kind, some (d.srid.getD geographySrid)⟩
  | some column, some .geometry => d.geometryKind.map fun kind => ⟨column, .geometry, some kind, d.srid⟩
  | _, _ => none

def acceptsKind (d : Descriptor) (spec : GeometryColumn) : Bool :=
  match d.geometryKind, spec.kind with
  | some wanted, some kind => wanted = kind || wanted.plural? = some kind
  | _, _ => true

def acceptsColumn (d : Descriptor) (spec : GeometryColumn) : Bool :=
  match d.geometryColumn with
  | some column => column = spec.column
  | none => true

/-- The first resolved column that agrees with the column and the kind of the descriptor. -/
def pick? (d : Descriptor) (specs : List GeometryColumn) : Option GeometryColumn :=
  specs.find? fun spec => d.acceptsColumn spec && d.acceptsKind spec

end Descriptor

end FeatureLayers
