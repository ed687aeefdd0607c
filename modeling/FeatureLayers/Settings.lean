import FeatureLayers.Schema.Encoding
import FeatureLayers.Numeric.Printing

namespace FeatureLayers

structure Settings where
  batchSize : Nat
  geometryRowCap : Nat
  cellRowCap : Nat
  previewLimit : Nat
  cellMarker : String
deriving DecidableEq, Repr, Inhabited

namespace Settings

def standard : Settings where
  batchSize := 5000
  geometryRowCap := 50000
  cellRowCap := 500000
  previewLimit := 50000
  cellMarker := "h3"

def rowCap (s : Settings) : Encoding → Nat
  | .cellId => s.cellRowCap
  | .geometry | .geography => s.geometryRowCap

def effectiveBatchSize (s : Settings) : Nat := max s.batchSize 1

def needsSampling (s : Settings) (encoding : Encoding) (rowCount : Nat) : Bool := s.rowCap encoding ≤ rowCount

end Settings

end FeatureLayers
