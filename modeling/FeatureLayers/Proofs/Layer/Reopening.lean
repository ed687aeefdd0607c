import FeatureLayers.Proofs.Layer.Asking

namespace FeatureLayers

theorem GeometryColumn.featureKind?_of_vector {spec : GeometryColumn} (vector : spec.encoding ≠ .cellId) :
    spec.featureKind? = spec.kind := by
  unfold featureKind?
  split
  · contradiction
  · rfl

namespace Descriptor

def DescribesColumn (d : Descriptor) : Prop :=
  ∃ column encoding, d.geometryColumn = some column ∧ d.encoding = some encoding ∧
    (encoding = .cellId ∨ d.geometryKind.isSome)

/-- What the descriptor says of the spatial column is true of this one. -/
structure Fits (d : Descriptor) (spec : GeometryColumn) : Prop where
  column : ∀ column, d.geometryColumn = some column → spec.column = column
  encoding : d.DescribesColumn → ∀ encoding, d.encoding = some encoding → spec.encoding = encoding
  kind : spec.encoding ≠ .cellId → ∀ wanted kind, d.geometryKind = some wanted → spec.featureKind? = some kind →
    kind = wanted ∨ wanted.plural? = some kind

variable {d : Descriptor} {spec : GeometryColumn} {specs : List GeometryColumn}

theorem acceptsColumn_iff :
    d.acceptsColumn spec = true ↔ ∀ column, d.geometryColumn = some column → spec.column = column := by
  unfold acceptsColumn
  cases d.geometryColumn with
  | none => simp
  | some column => simp [@eq_comm _ spec.column]

theorem acceptsKind_iff : d.acceptsKind spec = true ↔ ∀ wanted kind, d.geometryKind = some wanted →
    spec.kind = some kind → kind = wanted ∨ wanted.plural? = some kind := by
  unfold acceptsKind
  cases d.geometryKind with
  | none => simp
  | some wanted =>
    cases spec.kind with
    | none => simp
    | some kind => simp [@eq_comm _ kind]

theorem declaredColumn?_isSome_iff : d.declaredColumn?.isSome ↔ d.DescribesColumn := by
  unfold declaredColumn? DescribesColumn
  rcases d.geometryColumn with _ | column
  · simp
  · rcases d.encoding with _ | encoding
    · simp
    · cases encoding <;> simp

theorem declaredColumn?_fits (described : d.declaredColumn? = some spec) (srid : Option Int) :
    d.Fits { spec with srid } := by
  unfold declaredColumn? at described
  split at described
  · rename_i column named encoded
    cases described
    exact ⟨by simp [named], by simp [encoded], by simp⟩
  · rename_i column named encoded
    obtain ⟨kind, wanted, rfl⟩ := Option.map_eq_some_iff.mp described
    exact ⟨by simp [named], by simp [encoded], by simp [wanted, GeometryColumn.featureKind?]⟩
  · rename_i column named encoded
    obtain ⟨kind, wanted, rfl⟩ := Option.map_eq_some_iff.mp described
    exact ⟨by simp [named], by simp [encoded], by simp [wanted, GeometryColumn.featureKind?]⟩
  · cases described

theorem pick?_fits (undescribed : d.declaredColumn? = none) (picked : d.pick? specs = some spec) : d.Fits spec := by
  have agrees := List.find?_some picked
  rw [Bool.and_eq_true, acceptsColumn_iff, acceptsKind_iff] at agrees
  refine ⟨agrees.1, fun describes => ?_, fun vector => ?_⟩
  · have isSome := declaredColumn?_isSome_iff.mpr describes
    rw [undescribed] at isSome
    cases isSome
  · rw [GeometryColumn.featureKind?_of_vector vector]
    exact agrees.2

end Descriptor

namespace Layer

open Warehouse (Session)
open Warehouse.Action (bind_ok)

variable {d : Descriptor} {context : Warehouse.Context} {settings : Settings} {l : Layer} {spec : GeometryColumn}
  {s s' : Session}

theorem findSpec_fits {r : Resolver} (found : (findSpec r d).run s = (.ok (some spec), s')) : d.Fits spec := by
  unfold findSpec at found
  split at found
  · rename_i declared described
    split at found
    · obtain ⟨srid, s₁, asked, found⟩ := bind_ok found
      cases found
      exact Descriptor.declaredColumn?_fits described srid
    · cases found
      exact Descriptor.declaredColumn?_fits described spec.srid
  · rename_i undescribed
    obtain ⟨specs, s₁, resolved, found⟩ := bind_ok found
    obtain ⟨picked, -⟩ := Prod.mk.inj found
    exact Descriptor.pick?_fits undescribed (Except.ok.inj picked)

/-- A layer that is opened with a spatial column has one that its descriptor fits. -/
theorem ofDescriptor_fits (opened : (ofDescriptor d context settings).run s = (.ok l, s'))
    (spatial : l.spec = some spec) : d.Fits spec := by
  obtain ⟨found, fields, sampling, s₁, s₂, s₃, s₄, s₅, finds, -, -, -, -, rfl, -⟩ := ofDescriptor_stages opened
  cases spatial
  exact findSpec_fits finds

def parcels : Session :=
  let columns : List Column := [⟨"OUTLINE", .geometry, 0⟩, ⟨"CELL", .text, 1⟩]
  .start fun number _ => match number with
    | 0 | 4 => .rows columns [] fun _ => .none
    | 1 => .rows [] [[.int 31287]] fun _ => .none
    | 2 => .rows [] [[.text "MultiPolygon"]] fun _ => .none
    | 3 => .rows [] [[.bool true]] fun _ => .none
    | _ => .rows [] [[.int 2]] fun _ => .none

def parcel : Descriptor := .ofSource "lake" (.query "SELECT * FROM PARCELS")

def outline : GeometryColumn := ⟨"OUTLINE", .geometry, some .multiPolygon, some 31287⟩

def parcelCells : GeometryColumn := ⟨"CELL", .cellId, none, some 4326⟩

theorem opened_of_eval
    (spatial : ((ofDescriptor d context settings).run s).1.toOption.map (·.spec) = some (some spec)) :
    ∃ l s', (ofDescriptor d context settings).run s = (.ok l, s') ∧ l.spec = some spec := by
  rcases opened : (ofDescriptor d context settings).run s with ⟨e | l, s'⟩
  · rw [opened] at spatial
    cases spatial
  · rw [opened] at spatial
    exact ⟨l, s', rfl, Option.some.inj spatial⟩

theorem parcels_are_opened_as_polygons : ∃ l s',
    (ofDescriptor { parcel with geometryKind := some .polygon } .unset .standard).run parcels = (.ok l, s') ∧
      l.spec = some outline ∧ Descriptor.Fits { parcel with geometryKind := some .polygon } outline := by
  obtain ⟨l, s', opened, spatial⟩ : ∃ l s', (ofDescriptor { parcel with geometryKind := some .polygon } .unset
      .standard).run parcels = (.ok l, s') ∧ l.spec = some outline := opened_of_eval (by decide +kernel)
  exact ⟨l, s', opened, spatial, ofDescriptor_fits opened spatial⟩

/-- Planar outlines are opened although geography was asked for, and cells although points were. -/
theorem parcels_are_opened_otherwise :
    (¬ ∀ (d : Descriptor) (s s' : Session) (l : Layer) (spec : GeometryColumn) (encoding : Encoding),
      (ofDescriptor d .unset .standard).run s = (.ok l, s') → l.spec = some spec → d.encoding = some encoding →
        spec.encoding = encoding) ∧
    ¬ ∀ (d : Descriptor) (s s' : Session) (l : Layer) (spec : GeometryColumn) (wanted kind : GeometryKind),
      (ofDescriptor d .unset .standard).run s = (.ok l, s') → l.spec = some spec → d.geometryKind = some wanted →
        spec.featureKind? = some kind → kind = wanted ∨ wanted.plural? = some kind := by
  constructor
  · intro always
    obtain ⟨l, s', opened, spatial⟩ : ∃ l s', (ofDescriptor { parcel with
        geometryColumn := some "OUTLINE"
        encoding := some .geography } .unset .standard).run parcels = (.ok l, s') ∧ l.spec = some outline :=
      opened_of_eval (by decide +kernel)
    cases always _ _ _ _ _ _ opened spatial rfl
  · intro always
    obtain ⟨l, s', opened, spatial⟩ : ∃ l s', (ofDescriptor { parcel with geometryKind := some .point } .unset
        .standard).run parcels = (.ok l, s') ∧ l.spec = some parcelCells := opened_of_eval (by decide +kernel)
    rcases always _ _ _ _ _ _ .polygon opened spatial rfl rfl with same | same <;> cases same

end Layer

end FeatureLayers
