import FeatureLayers.Proofs.Query.Slot

namespace FeatureLayers.Query

def Projected.column? : Projected → Option String
  | .field name | .rawGeometry name | .key name => some name
  | .payload _ _ | .rowNumber => none

namespace Statement

def shown (s : Statement) : List String := s.projection.filterMap Projected.column?

def Filtered (s : Statement) : Prop := ∃ text, .expression text ∈ s.filters ∨ .subset text ∈ s.filters

/-- A filter that is handed on as it was written can name these columns and the spatial one, and no other. -/
def Sees (spec : GeometryColumn) (names : List String) (s : Statement) : Prop :=
  s.Filtered → ∀ name, name ∈ s.shown ↔ name ∈ names ∨ spec.column = name

end Statement

variable {plan : Plan} {request : Request} {expression : Option String} {box : Option BoundingBox}
  {projected : List Nat} {statement : Statement} {name : String}

theorem mem_slots_field {i : Nat} : .field i ∈ slots plan request.noGeometry projected ↔ i ∈ projected := by
  unfold slots visibleSlots
  cases request.noGeometry <;> cases carriesGeometry plan projected <;> cases plan.primaryKey <;> simp

theorem slots_shown : name ∈ ((slots plan request.noGeometry projected).map (Slot.projected plan)).filterMap
      Projected.column? ↔
    (∃ i ∈ projected, fieldName plan.fields i = name) ∨ plan.geometry.column = name := by
  rw [List.filterMap_map, List.mem_filterMap]
  constructor
  · rintro ⟨slot, selected, shows⟩
    cases slot with
    | field i => exact .inl ⟨i, mem_slots_field.mp selected, Option.some.inj shows⟩
    | rawGeometry => exact .inr (Option.some.inj shows)
    | payload => cases shows
    | rowNumber => cases shows
  · rintro (⟨i, member, same⟩ | rfl)
    · exact ⟨.field i, mem_slots_field.mpr member, congrArg some same⟩
    · cases carried : carriesGeometry plan projected with
      | true =>
        obtain ⟨i, member, same⟩ := List.any_eq_true.mp carried
        exact ⟨.field i, mem_slots_field.mpr member, congrArg some (of_decide_eq_true same)⟩
      | false => exact ⟨.rawGeometry, by simp [slots, visibleSlots, carried], rfl⟩

theorem projectedFields_of_filtered {output : List Nat} {attributes : List (Nat × Nat)}
    (filtered : (stated plan request expression box projected attributes).Filtered) :
    projectedFields plan request expression output = List.range plan.fields.length := by
  obtain ⟨text, filters⟩ := filtered
  rw [stated_filters] at filters
  have given : expression.isNone = false ∨ plan.subsetFilter.isNone = false := by
    cases expression with
    | some _ => exact .inl rfl
    | none =>
      cases subset : plan.subsetFilter with
      | some _ => exact .inr rfl
      | none => simp [subset] at filters
  unfold projectedFields
  rcases given with given | given <;> simp [given]

theorem mem_range_fieldName {fields : List Field} :
    (∃ i ∈ List.range fields.length, fieldName fields i = name) ↔ name ∈ fields.map (·.name) := by
  rw [List.mem_map]
  constructor
  · rintro ⟨i, inside, rfl⟩
    have inside := List.mem_range.mp inside
    exact ⟨fields[i], List.getElem_mem inside, by simp [fieldName, inside]⟩
  · rintro ⟨field, member, rfl⟩
    obtain ⟨i, inside, rfl⟩ := List.mem_iff_getElem.mp member
    exact ⟨i, List.mem_range.mpr inside, by simp [fieldName, inside]⟩

theorem compose_sees (keyed : ∀ key, plan.primaryKey = some key → key < plan.fields.length)
    (composed : compose plan request expression box = .ok statement) :
    statement.Sees plan.geometry (plan.fields.map (·.name)) := by
  intro filtered name
  obtain ⟨output, attributes, -, rfl⟩ := compose_ok composed
  rw [projectedFields_of_filtered filtered, Statement.shown,
    stated_slots fun key primary => List.mem_range.mpr (keyed key primary), slots_shown, mem_range_fieldName]

end FeatureLayers.Query
