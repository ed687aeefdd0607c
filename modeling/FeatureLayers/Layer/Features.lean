import FeatureLayers.Layer.Basic
import FeatureLayers.Scan.Fetch

namespace FeatureLayers.Layer

def forget (l : Layer) : Layer := { l with store := l.store.invalidate, countCache := none, extentCache := none }

/-- Replaces the subset filter. One that the warehouse does not accept is refused, and an empty one removes it. -/
def setSubset (l : Layer) (filter : Option String) : Action (Bool × Layer) := do
  let wanted := (filter.map Text.trimText).filter (· != "")
  let accepted ← match wanted with
    | some filter => acceptsExpression l.base.endpoint l.fromClause filter
    | none => pure true
  if accepted then
    Warehouse.Action.note .debug .source "Subset filter changed"
    return (true, { l with base := { l.base with subsetFilter := wanted } }.forget)
  else
    Warehouse.Action.note .warn .source "Rejected subset filter"
    return (false, l)

def isWhole (l : Layer) (request : Request) (scan : Scan) : Bool :=
  request.isUnfiltered && !scan.reprojects && !l.isLimited

def getFeatures (l : Layer) (request : Request) : Action Scan := do
  match request.expression, l.store.features with
  | none, some features => Scan.replay l.base l.spec features request
  | _, _ =>
    let scan ← Scan.stream l.base l.spec request
    return if l.isWhole request scan then scan.publishingTo l.store else scan

/-- The statement for a request, which is not run; its expression is tried, though. -/
def explain (l : Layer) (request : Request) : Action Query.Statement := do
  let spec ← Scan.requireSpec l.spec
  return (← Scan.plan l.base spec request).1

def adopt (l : Layer) (features : List Feature) : Action Layer := do
  Warehouse.Action.note .debug .source "Adopted materialized features"
  return { l with store := l.store.adopt features }

def loadAll (l : Layer) : Action (Nat × Layer) := do
  match l.store.features with
  | some features => return (features.length, l)
  | none =>
    let scan ← l.getFeatures .all
    ExceptT.mk fun session =>
      let (features, run) := Run.collectRemaining ⟨scan, session, l.store⟩
      let run := run.close
      (features.map fun features => (features.length, { l with store := run.store }), run.session)

def registerTransform (l : Layer) (transform : Crs.Transform) : Layer :=
  { l with base := { l.base with transforms := l.base.transforms ++ [transform] } }

end FeatureLayers.Layer
