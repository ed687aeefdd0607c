import FeatureLayers.Feature
import FeatureLayers.Layer.Access
import FeatureLayers.Query.Compose
import FeatureLayers.Wkb.Reader

namespace FeatureLayers

structure FeatureGroup where
  kind : GeometryKind
  features : Array Feature
deriving Repr, Inhabited

namespace FeatureGroup

open Layer (Action)
open Warehouse (ResultSet Session)

def add (kind : GeometryKind) (f : Feature) : List FeatureGroup → List FeatureGroup
  | [] => [⟨kind, #[f]⟩]
  | group :: rest =>
    if group.kind = kind then { group with features := group.features.push f } :: rest else group :: add kind f rest

structure Progress where
  groups : List FeatureGroup
  nextId : Nat
deriving Repr, Inhabited

def payloadOf (row : Row) : Value := row.getLast?.getD .null

def geometryOf? : Value → Option Geometry
  | .binary bytes => (Wkb.read bytes).toOption
  | _ => none

/-- Takes up one row; its last cell is the payload and the others are attributes. -/
def Progress.takeRow (p : Progress) (row : Row) : Progress :=
  match geometryOf? (payloadOf row) with
  | none => p
  | some g => match g.kind? with
    | none => p
    | some kind => ⟨add kind ⟨p.nextId, some g, row.dropLast⟩ p.groups, p.nextId + 1⟩

def poll (s : Session) : Bool × Session := (s.cancel.isRaised, { s with cancel := s.cancel.polled })

def takeRows : List Row → Progress → Session → Option Progress × Session
  | [], p, s => (some p, s)
  | row :: rest, p, s => match poll s with
    | (true, s) => (none, s)
    | (false, s) => takeRows rest (p.takeRow row) s

def unread (result : ResultSet) : Nat := result.cursor.rows.length

theorem unread_fetchMany_lt {n : Nat} {r r' : ResultSet} {s s' : Session} {batch : List Row}
    (positive : 0 < n) (full : ¬ batch.length < n) (h : r.fetchMany n s = (.ok batch, r', s')) :
    unread r' < unread r := by
  obtain ⟨taken, left⟩ := ResultSet.fetchMany_ok h
  simp only [unread, left, List.length_drop]
  rw [taken, List.length_take] at full
  omega

/-- Fetches until a batch is short. Whatever the outcome, the cursor is closed. -/
def collect (batchSize : Nat) (positive : 0 < batchSize) (result : ResultSet) (p : Progress) (s : Session) :
    Except Layer.Error Progress × Session :=
  match poll s with
  | (true, s) => (.error .cancelled, ((result.close s).2).note .info .preview "Layer collection cancelled")
  | (false, s) => match _fetched : result.fetchMany batchSize s with
    | (.error e, result, s) => (.error (.warehouse e), (result.close s).2)
    | (.ok batch, result, s) => match takeRows batch p s with
      | (none, s) => (.error .cancelled, (result.close s).2)
      | (some p, s) =>
        if _short : batch.length < batchSize then (.ok p, (result.close s).2)
        else collect batchSize positive result p s
termination_by unread result
decreasing_by exact unread_fetchMany_lt positive _short _fetched

def attributeColumns (columns : List Column) (geometryColumn : String) : List Column :=
  columns.filter (·.name != geometryColumn)

def statementText (fromText : String) (columns : List Column) (geometryColumn : String) : String :=
  let names := (attributeColumns columns geometryColumn).map fun c => quoteName c.name
  let payload := "ST_ASWKB(" ++ quoteName geometryColumn ++ ") AS " ++ quoteName Query.geometryAlias
  "SELECT " ++ commaList (names ++ [payload]) ++ " FROM " ++ fromText

structure Collection where
  fields : List Field
  groups : List FeatureGroup
deriving Repr, Inhabited

def ofQuery (endpoint : Warehouse.Endpoint) (query geometryColumn : String) (batchSize : Nat) : Action Collection := do
  let fromText := (Source.query query).fromClause
  let columns ← Layer.describe endpoint fromText
  if columns.any (·.name = geometryColumn) then
    let sql := statementText fromText columns geometryColumn
    let result ← Layer.ofWarehouse (Warehouse.Action.execute (endpoint.command sql))
    let progress ← ExceptT.mk (collect (max batchSize 1) (by omega) result ⟨[], 0⟩)
    Warehouse.Action.note .info .preview "Collected ad-hoc layers"
    return ⟨(attributeColumns columns geometryColumn).map Field.ofColumn, progress.groups⟩
  else throw (.unknownField geometryColumn)

end FeatureGroup

end FeatureLayers
