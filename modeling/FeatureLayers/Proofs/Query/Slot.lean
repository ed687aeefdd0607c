import FeatureLayers.Proofs.Query.Composed
import Mathlib.Data.List.Nodup

namespace FeatureLayers.Query

/-- What a column of a selection is of. -/
inductive Slot
  | field (index : Nat)
  | payload
  | rawGeometry
  | rowNumber
deriving DecidableEq, Repr

def Slot.projected (plan : Plan) : Slot → Projected
  | .field index => .field (fieldName plan.fields index)
  | .payload => .payload plan.geometry.encoding plan.geometry.column
  | .rawGeometry => .rawGeometry plan.geometry.column
  | .rowNumber => .rowNumber

def carriesGeometry (plan : Plan) (projected : List Nat) : Bool :=
  projected.any fun i => fieldName plan.fields i = plan.geometry.column

def visibleSlots (plan : Plan) (noGeometry : Bool) (projected : List Nat) : List Slot :=
  projected.map .field ++ (if noGeometry then [] else [.payload]) ++
    (if carriesGeometry plan projected then [] else [.rawGeometry])

def slots (plan : Plan) (noGeometry : Bool) (projected : List Nat) : List Slot :=
  visibleSlots plan noGeometry projected ++ if plan.primaryKey.isSome then [] else [.rowNumber]

def identitySlot (plan : Plan) : Slot :=
  match plan.primaryKey with
  | some key => .field key
  | none => .rowNumber

def indexed (projected output : List Nat) : List (Nat × Nat) := output.map fun field => (field, projected.idxOf field)

theorem identity_projected (plan : Plan) : (identitySlot plan).projected plan = identity plan := by
  unfold identitySlot identity
  cases plan.primaryKey <;> rfl

theorem slots_nodup (plan : Plan) (noGeometry : Bool) {projected : List Nat} (distinct : projected.Nodup) :
    (slots plan noGeometry projected).Nodup := by
  have fields : (projected.map Slot.field).Nodup := distinct.map fun _ _ => Slot.field.inj
  unfold slots visibleSlots
  cases noGeometry <;> cases carriesGeometry plan projected <;> cases plan.primaryKey <;>
    simp [List.nodup_append, fields]

section Projection

variable {plan : Plan} {request : Request} {expression : Option String} {box : Option BoundingBox}
  {projected : List Nat} {attributes : List (Nat × Nat)}

theorem slots_field {column : Nat} (inside : column < projected.length) :
    (slots plan request.noGeometry projected)[column]? = some (.field projected[column]) := by
  rw [slots, visibleSlots, List.append_assoc, List.append_assoc,
    List.getElem?_append_left (by rwa [List.length_map]), List.getElem?_map, List.getElem?_eq_getElem inside]
  rfl

theorem slots_idxOf {field : Nat} (present : field ∈ projected) :
    (slots plan request.noGeometry projected)[projected.idxOf field]? = some (.field field) := by
  have before := List.idxOf_lt_length_iff.mpr present
  rw [slots_field before, List.getElem_idxOf before]

theorem slots_payload (shown : request.noGeometry = false) :
    (slots plan request.noGeometry projected)[projected.length]? = some .payload := by
  rw [slots, visibleSlots, List.append_assoc, List.append_assoc,
    List.getElem?_append_right (Nat.le_of_eq (List.length_map _)), shown, List.length_map, Nat.sub_self]
  rfl

theorem visible_slots : visible plan request projected =
    (visibleSlots plan request.noGeometry projected).map (Slot.projected plan) := by
  have raw : rawColumns plan projected =
      if carriesGeometry plan projected then [] else [.rawGeometry plan.geometry.column] := rfl
  rw [visible, visibleSlots, raw]
  simp only [List.map_append, List.map_map, apply_ite (List.map (Slot.projected plan))]
  rfl

variable (keyed : ∀ key, plan.primaryKey = some key → key ∈ projected)

include keyed

theorem idColumn_keyed (width : Nat) : idColumn plan projected width = match plan.primaryKey with
    | some key => (projected.idxOf key, fieldName plan.fields key, [])
    | none => (width, rowNumberAlias, [.rowNumber]) := by
  unfold idColumn
  cases primary : plan.primaryKey with
  | none => rfl
  | some key =>
    dsimp only
    rw [List.idxOf_eq_getD_idxOf?]
    cases found : projected.idxOf? key with
    | none => exact absurd (keyed key primary) (List.idxOf?_eq_none_iff.mp found)
    | some column => rfl

theorem stated_slots : (stated plan request expression box projected attributes).projection =
    (slots plan request.noGeometry projected).map (Slot.projected plan) := by
  rw [stated_projection, idColumn_keyed keyed, slots, List.map_append, ← visible_slots]
  cases plan.primaryKey <;> rfl

theorem slots_id : (slots plan request.noGeometry projected)[
    (idColumn plan projected (visible plan request projected).length).1]? = some (identitySlot plan) := by
  rw [idColumn_keyed keyed]
  unfold identitySlot
  cases primary : plan.primaryKey with
  | some key =>
    exact slots_idxOf (keyed key primary)
  | none =>
    rw [slots, primary, visible_slots, List.length_map]
    exact List.getElem?_concat_length

theorem projection_id : (stated plan request expression box projected attributes).projection[
    (stated plan request expression box projected attributes).layout.id]? = some (identity plan) := by
  rw [stated_slots keyed, List.getElem?_map, stated_id, slots_id keyed, ← identity_projected]
  rfl

end Projection

/-- Every place that a layout names lies in the row, and nothing else is read where the payload is. -/
structure Layout.Fits (layout : Layout) (projection : List Projected) : Prop where
  width : layout.width = projection.length
  attributes : ∀ entry ∈ layout.attributes, entry.2 < layout.width
  id : layout.id < layout.width
  geometry : ∀ column, layout.geometry = some column → column < layout.width
  geometry_ne_id : ∀ column, layout.geometry = some column → column ≠ layout.id
  geometry_ne_attribute : ∀ column, layout.geometry = some column → ∀ entry ∈ layout.attributes, column ≠ entry.2

def selectedSlots (plan : Plan) (request : Request) (expression : Option String) (output : List Nat) : List Slot :=
  slots plan request.noGeometry (projectedFields plan request expression output)

theorem projectedFields_nodup (plan : Plan) (request : Request) (expression : Option String) {output : List Nat}
    (distinct : output.Nodup) : (projectedFields plan request expression output).Nodup := by
  unfold projectedFields
  split
  · exact distinct
  · exact List.nodup_range

section Layout

variable {plan : Plan} {request : Request} {expression : Option String} {box : Option BoundingBox}
  {projected output : List Nat}

theorem stated_fits (inside : ∀ i ∈ output, i ∈ projected)
    (keyed : ∀ key, plan.primaryKey = some key → key ∈ projected) :
    let statement := stated plan request expression box projected (indexed projected output)
    statement.layout.Fits statement.projection := by
  intro statement
  have within {column : Nat} {slot : Slot} (here : (slots plan request.noGeometry projected)[column]? = some slot) :
      column < statement.layout.width := by
    rw [stated_width, stated_slots keyed, List.length_map]
    exact (List.getElem?_eq_some_iff.mp here).1
  have fields : ∀ entry ∈ statement.layout.attributes, entry.2 < projected.length := by
    intro entry member
    obtain ⟨field, asked, rfl⟩ := List.mem_map.mp member
    exact List.idxOf_lt_length_iff.mpr (inside field asked)
  have payload : ∀ column, statement.layout.geometry = some column → column = projected.length ∧
      (slots plan request.noGeometry projected)[column]? = some .payload := by
    intro column same
    rw [stated_geometry] at same
    cases shown : request.noGeometry with
    | true => rw [shown] at same; cases same
    | false =>
      rw [shown] at same
      cases same
      exact ⟨rfl, shown ▸ slots_payload shown⟩
  refine ⟨rfl, fun entry member => within (slots_field (fields entry member)), within (slots_id keyed),
    fun column same => within (payload column same).2, fun column same => ?_, fun column same entry member => ?_⟩
  · rintro rfl
    have both := (payload _ same).2.symm.trans (slots_id keyed)
    unfold identitySlot at both
    cases primary : plan.primaryKey <;> rw [primary] at both <;> cases both
  · rw [(payload column same).1]
    exact Nat.ne_of_gt (fields entry member)

/-- Columns selected once each, in this order; all that a feature is read from is among them. -/
structure Statement.Selects (statement : Statement) (plan : Plan) (request : Request) (output : List Nat)
    (selected : List Slot) : Prop where
  projection : statement.projection = selected.map (Slot.projected plan)
  distinct : selected.Nodup
  fields : ∀ field ∈ output, .field field ∈ selected
  id : identitySlot plan ∈ selected
  payload : request.noGeometry = false → .payload ∈ selected
  rawGeometry : quoteName plan.geometry.column ∈ statement.projection.map Projected.text

theorem rawGeometry_mem (plan : Plan) (noGeometry : Bool) (projected : List Nat) :
    ∃ slot ∈ slots plan noGeometry projected, (slot.projected plan).text = quoteName plan.geometry.column := by
  cases carried : carriesGeometry plan projected with
  | true =>
    obtain ⟨index, member, same⟩ := List.any_eq_true.mp carried
    refine ⟨.field index, ?_, congrArg quoteName (of_decide_eq_true same)⟩
    simp [slots, visibleSlots, member]
  | false =>
    refine ⟨.rawGeometry, ?_, rfl⟩
    simp [slots, visibleSlots, carried]

theorem stated_selects (distinct : projected.Nodup) (inside : ∀ i ∈ output, i ∈ projected)
    (keyed : ∀ key, plan.primaryKey = some key → key ∈ projected) :
    (stated plan request expression box projected (indexed projected output)).Selects plan request output
      (slots plan request.noGeometry projected) where
  projection := stated_slots keyed
  distinct := slots_nodup plan request.noGeometry distinct
  fields field asked := List.mem_of_getElem? (slots_idxOf (inside field asked))
  id := List.mem_of_getElem? (slots_id keyed)
  payload shown := List.mem_of_getElem? (slots_payload shown)
  rawGeometry := by
    obtain ⟨slot, member, named⟩ := rawGeometry_mem plan request.noGeometry projected
    rw [stated_slots keyed, List.map_map, ← named]
    exact List.mem_map_of_mem member

end Layout

end FeatureLayers.Query
