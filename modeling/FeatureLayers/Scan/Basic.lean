import FeatureLayers.Decode.Row
import FeatureLayers.Layer.Access
import FeatureLayers.Scan.Selection
import FeatureLayers.Scan.Store

namespace FeatureLayers

structure ScanBase where
  endpoint : Warehouse.Endpoint
  source : Source
  fields : List Field
  primaryKey : Option Nat
  subsetFilter : Option String
  sampleLimit : Option Nat
  batchSize : Nat
  transforms : Crs.Registry

namespace Scan

inductive Phase
  | streaming (result : Warehouse.ResultSet) (buffer : List Row) (isDrained : Bool)
  | replaying (rest : List Feature)
  | exhausted
  | closed

def Phase.name : Phase → String
  | .streaming _ _ _ => "Streaming"
  | .replaying _ => "Replaying"
  | .exhausted => "Exhausted"
  | .closed => "Closed"

inductive Work
  | statement (statement : Query.Statement) (decoder : Decode.RowDecoder)
  | replay (features : List Feature) (selection : Selection)

structure Stats where
  batches : Nat
  rowsDecoded : Nat
  rowsSkipped : Nat
deriving DecidableEq, Repr, Inhabited

def Stats.start : Stats := ⟨0, 0, 0⟩

inductive CancelSource
  | own (flag : Warehouse.CancelFlag)
  | shared
deriving DecidableEq, Repr, Inhabited

end Scan

structure Scan where
  endpoint : Warehouse.Endpoint
  spec : GeometryColumn
  work : Scan.Work
  transform : Option Crs.Transform
  batchSize : Nat
  batchSize_pos : 0 < batchSize
  phase : Scan.Phase
  cache : Cache
  /-- The generation of the store in which the finished scan is published. -/
  publication : Option Nat
  position : Nat
  stats : Scan.Stats
  cancel : Scan.CancelSource

namespace Scan

def idle (base : ScanBase) (spec : GeometryColumn) (work : Work) (transform : Option Crs.Transform) : Scan where
  endpoint := base.endpoint
  spec := spec
  work := work
  transform := transform
  batchSize := max base.batchSize 1
  batchSize_pos := by omega
  phase := .exhausted
  cache := .empty
  publication := none
  position := 0
  stats := .start
  cancel := .own .lowered

def statement? (s : Scan) : Option Query.Statement :=
  match s.work with
  | .statement statement _ => some statement
  | .replay _ _ => none

def reprojects (s : Scan) : Bool := s.transform.isSome

def yielded (s : Scan) (f : Feature) : Scan :=
  { s with stats := { s.stats with rowsDecoded := s.stats.rowsDecoded + 1 }, cache := s.cache.push f }

def skipped (s : Scan) : Scan := { s with stats := { s.stats with rowsSkipped := s.stats.rowsSkipped + 1 } }

def fetched (s : Scan) : Scan := { s with stats := { s.stats with batches := s.stats.batches + 1 } }

def listeningToShared (s : Scan) : Scan := { s with cancel := .shared }

def publishingTo (s : Scan) (store : Store) : Scan := { s with publication := some store.generation }

end Scan

end FeatureLayers
