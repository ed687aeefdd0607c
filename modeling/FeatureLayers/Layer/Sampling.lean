import FeatureLayers.Layer.Access
import FeatureLayers.Query.Predicate
import FeatureLayers.Settings

namespace FeatureLayers

structure Sampling where
  rowCount : Nat
  limit : Option Nat
deriving DecidableEq, Repr, Inhabited

namespace Sampling

def isLimited (s : Sampling) : Bool := s.limit.isSome

def clause (s : Sampling) : Option String := s.limit.map Query.samplingText

def ofRowCount (settings : Settings) (encoding : Encoding) (rowCount : Nat) : Sampling :=
  ⟨rowCount, if settings.needsSampling encoding rowCount then some (settings.rowCap encoding) else none⟩

def assess (settings : Settings) (endpoint : Warehouse.Endpoint) (fromText : String) (encoding : Encoding) :
    Layer.Action Sampling := do
  let rowCount ← Layer.countRows endpoint fromText
  Warehouse.Action.note .debug .sampling "Assessed source size"
  return ofRowCount settings encoding rowCount

end Sampling

end FeatureLayers
