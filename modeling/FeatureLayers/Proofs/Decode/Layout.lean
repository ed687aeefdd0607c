import FeatureLayers.Decode.Row
import FeatureLayers.Proofs.Query.Output
import FeatureLayers.Proofs.Query.Slot

namespace FeatureLayers

open Query (Plan Slot Statement identitySlot indexed slots stated)

namespace Decode

def geometryOfPayload (plan : Plan) (noGeometry : Bool) (transform : Option Crs.Transform) (payload : Value) :
    Except Fault (Option Geometry) :=
  if noGeometry then .ok none
  else (RowDecoder.readPayload plan.geometry.encoding payload).map (Option.map (RowDecoder.moved transform))

/-- The feature that cells make up, when every selected column has one of its own. -/
def featureOf (cell : Slot → Value) (plan : Plan) (noGeometry : Bool) (output : List Nat)
    (transform : Option Crs.Transform) (position : Nat) : Except Fault Feature := do
  let geometry ← geometryOfPayload plan noGeometry transform (cell .payload)
  let attributes ← output.mapM fun field => (RowDecoder.converterOf plan.fields field).convert (cell (.field field))
  return ⟨((cell (identitySlot plan)).asInt?).getD position, geometry, attributes⟩

namespace RowDecoder

variable {plan : Plan} {request : Request} {expression : Option String} {box : Option BoundingBox}
  {projected output : List Nat} {statement : Statement} {row : Row} {cell : Slot → Value}
  (composed : statement = stated plan request expression box projected (indexed projected output))
  (reads : ∀ column slot, (slots plan request.noGeometry projected)[column]? = some slot →
    row.getD column .null = cell slot)
  (transform : Option Crs.Transform)

include composed reads

theorem geometryOf_slots :
    (of statement.layout plan.fields plan.geometry.encoding transform).geometryOf row =
      geometryOfPayload plan request.noGeometry transform (cell .payload) := by
  subst composed
  unfold geometryOf of geometryOfPayload
  dsimp only
  rw [Query.stated_geometry]
  cases hidden : request.noGeometry with
  | true => rfl
  | false =>
    simp only [Bool.false_eq_true, if_false]
    rw [reads _ _ (Query.slots_payload hidden)]
    cases readPayload plan.geometry.encoding (cell .payload) <;> rfl

omit reads in
theorem attributeRow_getD {column : Nat} (before : column < projected.length) :
    ((of statement.layout plan.fields plan.geometry.encoding transform).attributeRow row).getD column .null =
      row.getD column .null := by
  subst composed
  unfold attributeRow of
  dsimp only
  rw [Query.stated_geometry]
  cases request.noGeometry with
  | true => rfl
  | false =>
    simp only [Bool.false_eq_true, if_false]
    rw [List.getD_eq_getElem?_getD, List.getElem?_set_ne (Nat.ne_of_gt before), ← List.getD_eq_getElem?_getD]

theorem attributesOf_slots (inside : ∀ i ∈ output, i ∈ projected) :
    let decoder := of statement.layout plan.fields plan.geometry.encoding transform
    decoder.attributesOf (decoder.attributeRow row) =
      output.mapM fun field => (converterOf plan.fields field).convert (cell (.field field)) := by
  intro decoder
  have lookups : ∀ shown, decoder.attributesOf shown = output.mapM fun field =>
      (converterOf plan.fields field).convert (shown.getD (projected.idxOf field) .null) := by
    intro shown
    simp only [attributesOf, decoder, of, composed, stated, indexed, List.map_map, List.zip_map', List.mapM_map]
    rfl
  rw [lookups]
  refine mapM_congr fun field member => ?_
  have present := inside field member
  rw [attributeRow_getD composed transform (List.idxOf_lt_length_iff.mpr present)]
  rw [reads _ _ (Query.slots_idxOf present)]

theorem decode_slots (wide : statement.layout.width ≤ row.length) (inside : ∀ i ∈ output, i ∈ projected)
    (keyed : ∀ key, plan.primaryKey = some key → key ∈ projected) (position : Nat) :
    (of statement.layout plan.fields plan.geometry.encoding transform).decode row position =
      featureOf cell plan request.noGeometry output transform position := by
  have id : row.getD statement.layout.id .null = cell (identitySlot plan) := by
    subst composed
    exact reads _ _ (Query.slots_id keyed)
  have geometry := geometryOf_slots composed reads transform
  have attributes := attributesOf_slots composed reads transform inside
  unfold decode
  rw [geometry, attributes]
  simp only [of, Nat.not_lt.mpr wide, if_false, id]
  rfl

end RowDecoder

end Decode

namespace Query

def Slot.cellIn (slots : List Slot) (row : Row) (slot : Slot) : Value := row.getD (slots.idxOf slot) .null

theorem Slot.cellIn_getElem {slots : List Slot} (distinct : slots.Nodup) (row : Row) {column : Nat} {slot : Slot}
    (here : slots[column]? = some slot) : row.getD column .null = slot.cellIn slots row := by
  obtain ⟨inside, same⟩ := List.getElem?_eq_some_iff.mp here
  rw [cellIn, ← same, distinct.idxOf_getElem]

section Agreement

variable {plan : Plan} (keyed : ∀ key, plan.primaryKey = some key → key < plan.fields.length)

include keyed

theorem compose_selects {request : Request} {expression : Option String} {box : Option BoundingBox}
    {statement : Statement} (composed : compose plan request expression box = .ok statement) :
    firstUnknown? plan.fields request = none ∧
      let output := outputOf plan.fields plan.primaryKey request
      let selected := selectedSlots plan request expression output
      statement.layout.Fits statement.projection ∧ statement.Selects plan request output selected ∧
      ∀ row : Row, statement.layout.width ≤ row.length → ∀ transform position,
        (Decode.RowDecoder.of statement.layout plan.fields plan.geometry.encoding transform).decode row position =
          Decode.featureOf (Slot.cellIn selected row) plan request.noGeometry output transform position := by
  have total := compose_total keyed request expression box
  rw [outputFields_eq] at total
  cases unknown : firstUnknown? plan.fields request with
  | some name =>
    rw [unknown] at total
    cases composed.symm.trans total
  | none =>
    rw [unknown] at total
    let output := outputOf plan.fields plan.primaryKey request
    let projected := projectedFields plan request expression output
    obtain rfl : statement = stated plan request expression box projected (indexed projected output) :=
      Except.ok.inj (composed.symm.trans total)
    have asked : outputFields plan.fields plan.primaryKey request = .ok output := by
      rw [outputFields_eq, unknown]
    obtain ⟨fields, chosen⟩ := outputFields_ok keyed asked
    have inside : ∀ i ∈ output, i ∈ projected := output_subset_projected fields
    have present (key : Nat) (primary : plan.primaryKey = some key) : key ∈ projected := inside key (chosen key primary)
    have distinct : projected.Nodup := projectedFields_nodup plan request expression (outputOf_nodup _ _)
    have selects : (stated plan request expression box projected (indexed projected output)).Selects plan request output
        (slots plan request.noGeometry projected) := stated_selects distinct inside present
    refine ⟨rfl, stated_fits inside present, selects, fun row wide transform position => ?_⟩
    exact Decode.RowDecoder.decode_slots rfl (fun _ _ => Slot.cellIn_getElem selects.distinct row) transform wide inside
      present position

end Agreement

end Query

end FeatureLayers
