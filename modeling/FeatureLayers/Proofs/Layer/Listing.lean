import FeatureLayers.Proofs.Layer.Probing
import FeatureLayers.Proofs.Layer.Sized
import FeatureLayers.Proofs.Query.Visible

namespace FeatureLayers

open Warehouse (Session)
open Warehouse.Action (bind_ok precedes_frame)

structure ListedColumn where
  name : String
  isSpatial : Bool
deriving DecidableEq, Repr

namespace ListedColumn

def ofCatalog (c : CatalogColumn) : ListedColumn := ⟨c.name, (Encoding.ofDeclaredType? c.dataType).isSome⟩

def ofColumn (c : Column) : ListedColumn := ⟨c.name, c.typeCode.encoding?.isSome⟩

def ofAnswer (source : Source) (columns : List Column) (rows : List Row) : List ListedColumn :=
  match source with
  | .table _ _ => (rows.zipIdx.filterMap fun (row, ordinal) => Resolver.catalogColumn? row ordinal).map ofCatalog
  | .query _ => columns.map ofColumn

def attributes (listed : List ListedColumn) : List String := (listed.filter (!·.isSpatial)).map (·.name)

theorem mem_attributes {listed : List ListedColumn} {name : String} :
    name ∈ attributes listed ↔ ∃ other ∈ listed, other.isSpatial = false ∧ other.name = name := by
  simp [attributes, and_assoc]

end ListedColumn

def Source.ListedSince (source : Source) (endpoint : Warehouse.Endpoint) (s s' : Session)
    (listed : List ListedColumn) : Prop :=
  ∃ number columns rows disturbance, s.log.size ≤ number ∧
    s'.Answered number (endpoint.command (Resolver.listingText source)) rows ∧
    s'.answer number (endpoint.command (Resolver.listingText source)) = .rows columns rows disturbance ∧
    listed = ListedColumn.ofAnswer source columns rows

theorem Source.ListedSince.within {source : Source} {endpoint : Warehouse.Endpoint} {listed : List ListedColumn}
    {s s₁ s₂ s' : Session} (since : source.ListedSince endpoint s₁ s₂ listed) (before : s.Precedes s₁)
    (after : s₂.Precedes s') : source.ListedSince endpoint s s' listed := by
  obtain ⟨number, columns, rows, disturbance, later, answered, reply, same⟩ := since
  exact ⟨number, columns, rows, disturbance, Nat.le_trans before.size_le later, answered.later after,
    after.answer ▸ reply, same⟩

namespace Layer

variable {d : Descriptor} {context : Warehouse.Context} {settings : Settings} {spec : GeometryColumn}
  {names : List String} {l l' : Layer} {request : Request} {statement : Query.Statement} {s s' : Session}

theorem findFields_ok {r : Resolver} {source : Source} {fields : List Field}
    (h : (findFields r source).run s = (.ok fields, s')) :
    ∃ listed, source.ListedSince r.endpoint s s' listed ∧ fields.map (·.name) = ListedColumn.attributes listed := by
  cases source with
  | table schema name =>
    obtain ⟨columns, s₁, listing, returned⟩ := bind_ok h
    cases returned
    obtain ⟨rows, s₂, asked, returned⟩ := bind_ok listing
    cases returned
    obtain ⟨number, since, answered⟩ := queryAll_ok asked
    obtain ⟨shown, disturbance, reply⟩ := answered.2
    refine ⟨_, ⟨number, shown, rows, disturbance, since, answered, reply, rfl⟩, ?_⟩
    simp [ListedColumn.attributes, ListedColumn.ofAnswer, ListedColumn.ofCatalog, List.filter_map, Function.comp_def,
      Field.ofTypeName]
  | query sql =>
    obtain ⟨columns, s₁, listing, returned⟩ := bind_ok h
    cases returned
    obtain ⟨rows, disturbance, answered, reply⟩ := describe_ok listing
    refine ⟨_, ⟨s.log.size, columns, rows, disturbance, Nat.le_refl _, answered, reply, rfl⟩, ?_⟩
    simp [ListedColumn.attributes, ListedColumn.ofAnswer, ListedColumn.ofColumn, List.filter_map, Function.comp_def,
      Field.ofColumn]

/-- The layer has this column, and fields of these names; one of them is its primary key, if it has one. -/
structure Exposes (spec : GeometryColumn) (names : List String) (l : Layer) : Prop where
  column : l.spec = some spec
  fields : l.base.fields.map (·.name) = names
  keyed : ∀ key, l.base.primaryKey = some key → key < l.base.fields.length

theorem Exposes.composes {expression : Option String} {box : Option BoundingBox} (exposes : l.Exposes spec names)
    (composed : Query.compose (Scan.queryPlan l.base spec) request expression box = .ok statement) :
    statement.Sees spec names := by
  rw [← exposes.fields]
  exact Query.compose_sees exposes.keyed composed

theorem Exposes.explain (exposes : l.Exposes spec names) (h : (l.explain request).run s = (.ok statement, s')) :
    statement.Sees spec names := by
  obtain ⟨found, s₁, required, h₁⟩ := bind_ok h
  obtain ⟨⟨planned, transform⟩, s₂, plans, returned⟩ := bind_ok h₁
  cases returned
  obtain ⟨same, rfl⟩ := Scan.requireSpec_ok required
  cases exposes.column.symm.trans same
  obtain ⟨-, expression, -, composed⟩ := Scan.plan_ok plans
  exact exposes.composes composed

theorem Exposes.getFeatures {scan : Scan} (exposes : l.Exposes spec names)
    (h : (l.getFeatures request).run s = (.ok scan, s')) (asked : scan.statement? = some statement) :
    statement.Sees spec names := by
  rcases getFeatures_ok h with ⟨features, loaded, replays⟩ | ⟨opened, streams, rfl⟩
  · obtain ⟨spec, transform, selection, -, -, -, rfl, -⟩ := Scan.replay_ok replays
    cases asked
  · obtain ⟨found, transform, expression, composed, columns, rows, disturbance, number, same, -, -, composes, rfl, -⟩ :=
      Scan.stream_ok streams
    cases exposes.column.symm.trans same
    have statement : statement = composed := by
      split at asked <;> cases asked <;> rfl
    exact statement ▸ exposes.composes composes

theorem Exposes.setSubset {filter : Option String} {isAccepted : Bool} (exposes : l.Exposes spec names)
    (h : (l.setSubset filter).run s = (.ok (isAccepted, l'), s')) : l'.Exposes spec names := by
  rcases setSubset_ok h with rfl | rfl
  · exact exposes
  · exact { exposes with }

theorem ofDescriptor_exposes (h : (ofDescriptor d context settings).run s = (.ok l, s')) (found : l.spec = some spec) :
    ∃ listed, d.source.ListedSince ⟨d.connection, context⟩ s s' listed ∧
      l.Exposes spec (ListedColumn.attributes listed) := by
  have fresh := ofDescriptor_fresh h
  have frame := precedes_frame
  obtain ⟨spec', fields, sampling, s₁, s₂, s₃, s₄, s₅, finds, noted, listing, noted', assessed, rfl, rfl⟩ :=
    ofDescriptor_stages h
  have before := ((findSpec_keeps frame _ d).outcome finds).trans ((noteWhen_keeps frame _ _).outcome noted)
  have counted := ((noteWhen_keeps frame _ _).outcome noted').trans ((assess_keeps frame _ _ _ _).outcome assessed)
  have after := counted.trans (.note .info .source "Opened data source" _)
  obtain ⟨listed, since, names⟩ := findFields_ok listing
  exact ⟨listed, since.within before after, found, names, fresh.keyed⟩

end Layer

end FeatureLayers
