import FeatureLayers.Layer.Basic
import FeatureLayers.Proofs.Warehouse.Action

namespace FeatureLayers

open Warehouse (Session)
open Warehouse.Action (Frame Keeps)

variable {R : Session → Session → Prop}

namespace Resolver

theorem observedKind_keeps (frame : Frame R) (row : Row) : Keeps R (observedKind row) := by
  unfold observedKind
  split
  · exact frame.pure none
  · dsimp only
    split
    · exact frame.bind (frame.noted _ _ _) fun _ => frame.pure _
    · exact frame.pure _

variable (frame : Frame R) (r : Resolver)

include frame

theorem tableColumns_keeps (schema : Option String) (table : String) : Keeps R (r.tableColumns schema table) :=
  frame.bind (frame.rows _ _) fun _ => frame.pure _

theorem probeCell_keeps (fromText column : String) : Keeps R (r.probeCell fromText column) := by
  refine frame.bind (Frame.attempt (frame.queryAll _)) fun outcome => ?_
  cases outcome with
  | ok rows => exact frame.pure _
  | error e =>
    dsimp only
    split
    · exact frame.bind (frame.noted _ _ _) fun _ => frame.pure _
    · exact frame.throw _

theorem geometryKinds_keeps (fromText column : String) : Keeps R (r.geometryKinds fromText column) :=
  frame.bind (frame.rows _ _) fun _ => frame.bind (frame.mapM (observedKind_keeps frame) _) fun _ => frame.pure _

theorem srid_keeps (fromText column : String) : Keeps R (r.srid fromText column) :=
  frame.bind (frame.rows _ _) fun _ => frame.pure _

theorem declaredSpecs_keeps (fromText : String) (declared : String × Encoding) :
    Keeps R (r.declaredSpecs fromText declared) := by
  obtain ⟨column, encoding⟩ := declared
  have specs : ∀ srid, Keeps R (do return columnSpecs column encoding srid (← r.geometryKinds fromText column)) :=
    fun srid => frame.bind (r.geometryKinds_keeps frame _ _) fun _ => frame.pure _
  cases encoding with
  | geometry => exact frame.bind (r.srid_keeps frame _ _) specs
  | geography => exact frame.bind (frame.pure _) specs
  | cellId => exact frame.bind (frame.pure _) specs

theorem split_keeps (source : Source) : Keeps R (r.split source) := by
  unfold split
  split
  · exact frame.bind (r.tableColumns_keeps frame _ _) fun _ => frame.pure _
  · exact frame.bind (frame.columns _ _) fun _ => frame.pure _

theorem resolveAll_keeps (source : Source) : Keeps R (r.resolveAll source) := by
  refine frame.bind (r.split_keeps frame source) fun found => ?_
  refine frame.bind (frame.mapM (r.declaredSpecs_keeps frame _) _) fun declared => ?_
  refine frame.bind (frame.filterM (r.probeCell_keeps frame _) _) fun cells => ?_
  exact frame.bind (frame.noted _ _ _) fun _ => frame.pure _

end Resolver

namespace Layer

variable (frame : Frame R) (r : Resolver) (d : Descriptor)

include frame

theorem acceptsExpression_keeps (endpoint : Warehouse.Endpoint) (fromText expression : String) :
    Keeps R (acceptsExpression endpoint fromText expression) := by
  unfold acceptsExpression
  split
  · exact frame.pure false
  · refine frame.bind (Frame.attempt (frame.rows endpoint _)) fun outcome => ?_
    cases outcome with
    | ok rows => exact frame.pure true
    | error e => exact frame.bind (frame.noted _ _ _) fun _ => frame.pure false

theorem findSpec_keeps : Keeps R (findSpec r d) := by
  unfold findSpec
  split
  · split
    · exact frame.bind (r.srid_keeps frame _ _) fun _ => frame.pure _
    · exact frame.pure _
  · exact frame.bind (r.resolveAll_keeps frame _) fun _ => frame.pure _

theorem findFields_keeps (source : Source) : Keeps R (findFields r source) := by
  unfold findFields
  split
  · exact frame.bind (r.tableColumns_keeps frame _ _) fun _ => frame.pure _
  · exact frame.bind (frame.columns _ _) fun _ => frame.pure _

theorem noteWhen_keeps (condition : Bool) (message : String) : Keeps R (noteWhen condition message) := by
  unfold noteWhen
  split
  · exact frame.noted _ _ _
  · exact frame.pure _

theorem assess_keeps (settings : Settings) (endpoint : Warehouse.Endpoint) (fromText : String)
    (spec : Option GeometryColumn) :
    Keeps R (spec.mapM fun spec => Sampling.assess settings endpoint fromText spec.encoding) := by
  cases spec with
  | none => exact frame.pure _
  | some spec =>
    refine frame.bind ?_ fun _ => frame.pure _
    refine frame.bind ?_ fun _ => frame.bind (frame.noted _ _ _) fun _ => frame.pure _
    exact frame.bind (frame.rows _ _) fun _ => frame.pure _

theorem ofDescriptor_keeps (context : Warehouse.Context) (settings : Settings) :
    Keeps R (ofDescriptor d context settings) := by
  unfold ofDescriptor
  split
  · exact frame.throw _
  · refine frame.bind (findSpec_keeps frame _ d) fun spec => ?_
    refine frame.bind (noteWhen_keeps frame _ _) fun _ => ?_
    refine frame.bind (findFields_keeps frame _ _) fun fields => ?_
    refine frame.bind (noteWhen_keeps frame _ _) fun _ => ?_
    refine frame.bind (assess_keeps frame _ _ _ spec) fun sampling => ?_
    exact frame.bind (frame.noted _ _ _) fun _ => frame.pure _

omit frame

def assembled (d : Descriptor) (context : Warehouse.Context) (settings : Settings) (spec : Option GeometryColumn)
    (fields : List Field) (sampling : Option Sampling) : Layer where
  descriptor := d
  settings := settings
  base :=
    { endpoint := ⟨d.connection, context⟩
      source := d.source
      fields := fields
      primaryKey := d.primaryKey.bind (Field.index? fields)
      subsetFilter := none
      sampleLimit := sampling.bind (·.limit)
      batchSize := settings.effectiveBatchSize
      transforms := [] }
  spec := spec
  sampling := sampling
  store := .empty
  countCache := none
  extentCache := none

theorem ofDescriptor_stages {d : Descriptor} {context : Warehouse.Context} {settings : Settings} {l : Layer}
    {s s' : Session} (h : (ofDescriptor d context settings).run s = (.ok l, s')) :
    ∃ spec fields sampling s₁ s₂ s₃ s₄ s₅,
      (findSpec ⟨⟨d.connection, context⟩, settings⟩ d).run s = (.ok spec, s₁) ∧
      (noteWhen spec.isNone "No geometry column resolved").run s₁ = (.ok ⟨⟩, s₂) ∧
      (findFields ⟨⟨d.connection, context⟩, settings⟩ d.source).run s₂ = (.ok fields, s₃) ∧
      (noteWhen (d.primaryKey.isSome && (d.primaryKey.bind (Field.index? fields)).isNone)
        "Primary key is not an attribute of the source").run s₃ = (.ok ⟨⟩, s₄) ∧
      (spec.mapM fun spec =>
        Sampling.assess settings ⟨d.connection, context⟩ d.source.fromClause spec.encoding).run s₄ = (.ok sampling, s₅) ∧
      l = assembled d context settings spec fields sampling ∧ s' = s₅.note .info .source "Opened data source" := by
  unfold ofDescriptor at h
  split at h
  · cases h
  · obtain ⟨spec, s₁, found, h⟩ := Warehouse.Action.bind_ok h
    obtain ⟨⟨⟩, s₂, noted, h⟩ := Warehouse.Action.bind_ok h
    obtain ⟨fields, s₃, listed, h⟩ := Warehouse.Action.bind_ok h
    obtain ⟨⟨⟩, s₄, keyed, h⟩ := Warehouse.Action.bind_ok h
    obtain ⟨sampling, s₅, assessed, h⟩ := Warehouse.Action.bind_ok h
    obtain ⟨⟨⟩, s₆, last, h⟩ := Warehouse.Action.bind_ok h
    cases last
    cases h
    exact ⟨spec, fields, sampling, s₁, s₂, s₃, s₄, s₅, found, noted, listed, keyed, assessed, rfl, rfl⟩

end Layer

end FeatureLayers
