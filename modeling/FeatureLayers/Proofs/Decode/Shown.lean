import FeatureLayers.Proofs.Decode.Layout

namespace FeatureLayers

/-- A row of a source: its columns by name, the payload of its geometry, and its number. -/
structure SourceRow where
  column : String → Value
  payload : Value
  number : Value

namespace SourceRow

def cell (row : SourceRow) : Query.Projected → Value
  | .field name | .rawGeometry name | .key name => row.column name
  | .payload _ _ => row.payload
  | .rowNumber => row.number

def shown (row : SourceRow) (statement : Query.Statement) : Row := statement.projection.map row.cell

def value (row : SourceRow) (fields : List Field) (index : Nat) : Except Decode.Fault Value :=
  (Decode.RowDecoder.converterOf fields index).convert (row.column (Query.fieldName fields index))

def geometry (row : SourceRow) (encoding : Encoding) (noGeometry : Bool) (transform : Option Crs.Transform) :
    Except Decode.Fault (Option Geometry) :=
  if noGeometry then .ok none
  else (Decode.RowDecoder.readPayload encoding row.payload).map (Option.map (Decode.RowDecoder.moved transform))

def feature (row : SourceRow) (plan : Query.Plan) (noGeometry : Bool) (output : List Nat)
    (transform : Option Crs.Transform) (position : Nat) : Except Decode.Fault Feature := do
  let geometry ← row.geometry plan.geometry.encoding noGeometry transform
  let attributes ← output.mapM (row.value plan.fields)
  return ⟨((row.cell (Query.identity plan)).asInt?).getD position, geometry, attributes⟩

end SourceRow

namespace Query

def statementOf (plan : Plan) (request : Request) (expression : Option String) (box : Option BoundingBox)
    (output : List Nat) : Statement :=
  let projected := projectedFields plan request expression output
  stated plan request expression box projected (output.map fun field => (field, projected.idxOf field))

theorem shown_getD (row : SourceRow) (statement : Statement) {column : Nat} {entry : Projected}
    (here : statement.projection[column]? = some entry) : (row.shown statement).getD column .null = row.cell entry := by
  simp [SourceRow.shown, List.getD_eq_getElem?_getD, here]

end Query

namespace Decode.RowDecoder

open Query

variable {plan : Plan} {request : Request} {expression : Option String} {box : Option BoundingBox} {output : List Nat}
  {statement : Statement} (composed : statement = statementOf plan request expression box output) (row : SourceRow)
  (transform : Option Crs.Transform)

include composed

theorem decode_shown (inside : ∀ i ∈ output, i < plan.fields.length)
    (keyed : ∀ key, plan.primaryKey = some key → key ∈ projectedFields plan request expression output)
    (position : Nat) :
    (of statement.layout plan.fields plan.geometry.encoding transform).decode (row.shown statement) position =
      row.feature plan request.noGeometry output transform position := by
  have projection : statement.projection = (slots plan request.noGeometry
      (projectedFields plan request expression output)).map (Slot.projected plan) := composed ▸ stated_slots keyed
  have reads : ∀ column slot, (slots plan request.noGeometry (projectedFields plan request expression output))[column]? =
      some slot → (row.shown statement).getD column .null = row.cell (slot.projected plan) := by
    intro column slot here
    refine shown_getD row statement ?_
    rw [projection, List.getElem?_map, here]
    rfl
  have wide : statement.layout.width ≤ (row.shown statement).length := by
    rw [SourceRow.shown, List.length_map, composed]
    exact Nat.le_refl _
  rw [decode_slots composed reads transform wide (output_subset_projected inside) keyed, featureOf, identity_projected]
  rfl

end Decode.RowDecoder

open Query (Plan identity)

/-- What a row is when all of it is read, in the system of the source. -/
structure SourceRow.LoadsAs (row : SourceRow) (plan : Plan) (feature : Feature) : Prop where
  id : row.cell (identity plan) = .int feature.id
  geometry : Decode.RowDecoder.readPayload plan.geometry.encoding row.payload = .ok feature.geometry
  attributes : (List.range plan.fields.length).mapM (row.value plan.fields) = .ok feature.attributes

namespace SourceRow

variable {row : SourceRow} {plan : Plan} {feature : Feature}

theorem loadsAs_of_feature {n : Int} (numbered : row.cell (identity plan) = .int n) (position : Nat)
    (h : row.feature plan false (List.range plan.fields.length) none position = .ok feature) :
    row.LoadsAs plan feature := by
  unfold SourceRow.feature SourceRow.geometry at h
  cases read : Decode.RowDecoder.readPayload plan.geometry.encoding row.payload with
  | error fault => rw [read] at h; cases h
  | ok geometry =>
    cases converted : (List.range plan.fields.length).mapM (row.value plan.fields) with
    | error fault => rw [read, converted] at h; cases h
    | ok values =>
      rw [read, converted, numbered] at h
      have unmoved : Decode.RowDecoder.moved none = id := rfl
      simp only [Bool.false_eq_true, if_false, unmoved, Option.map_id, Except.map, id, Value.asInt?,
        Option.getD_some] at h
      cases h
      exact ⟨numbered, read, converted⟩

namespace LoadsAs

variable (loads : row.LoadsAs plan feature)

include loads

theorem width : feature.attributes.length = plan.fields.length := by
  have lengths := congrArg List.length (mapM_eq_ok.mp loads.attributes)
  simpa using lengths.symm

theorem value {i : Nat} (inside : i < plan.fields.length) :
    ∃ v, feature.attributes[i]? = some v ∧ row.value plan.fields i = .ok v := by
  have there : i < feature.attributes.length := by
    rw [loads.width]
    exact inside
  have same := congrArg (·[i]?) (mapM_eq_ok.mp loads.attributes)
  simp only [List.getElem?_map, List.getElem?_range inside, List.getElem?_eq_getElem there, Option.map_some,
    Option.some.injEq] at same
  exact ⟨_, List.getElem?_eq_getElem there, same⟩

theorem part (noGeometry : Bool) {output : List Nat} (inside : ∀ i ∈ output, i < plan.fields.length)
    (transform : Option Crs.Transform) (position : Nat) :
    row.feature plan noGeometry output transform position = .ok ⟨feature.id,
      if noGeometry then none else feature.geometry.map (Decode.RowDecoder.moved transform),
      output.filterMap fun i => feature.attributes[i]?⟩ := by
  have values : output.mapM (row.value plan.fields) = .ok (output.filterMap fun i => feature.attributes[i]?) := by
    have present : output.filterMap (feature.attributes[·]?) = output.map (feature.attributes.getD · .null) := by
      refine List.filterMap_eq_map_iff_forall_eq_some.mpr fun i member => ?_
      obtain ⟨v, here, -⟩ := loads.value (inside i member)
      simp [List.getD_eq_getElem?_getD, here]
    rw [present]
    refine mapM_of_ok fun i member => ?_
    obtain ⟨v, here, converted⟩ := loads.value (inside i member)
    simp [converted, List.getD_eq_getElem?_getD, here]
  have geometry : row.geometry plan.geometry.encoding noGeometry transform =
      .ok (if noGeometry then none else feature.geometry.map (Decode.RowDecoder.moved transform)) := by
    unfold SourceRow.geometry
    rw [loads.geometry]
    cases noGeometry <;> rfl
  unfold SourceRow.feature
  rw [geometry, values, loads.id]
  rfl

end LoadsAs

end SourceRow

end FeatureLayers
