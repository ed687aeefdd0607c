import FeatureLayers.Query.Compose
import Mathlib.Data.List.Basic

namespace FeatureLayers

section MapM

variable {ε α β : Type} {f : α → Except ε β} {items : List α}

theorem mapM_congr {g : α → Except ε β} (same : ∀ a ∈ items, f a = g a) : items.mapM f = items.mapM g := by
  induction items with
  | nil => rfl
  | cons item items ih =>
    rw [List.mapM_cons, List.mapM_cons, same item List.mem_cons_self,
      ih fun a member => same a (List.mem_cons_of_mem _ member)]

theorem mapM_eq_ok {results : List β} : items.mapM f = .ok results ↔ items.map f = results.map .ok := by
  induction items generalizing results with
  | nil =>
    cases results with
    | nil => exact ⟨fun _ => rfl, fun _ => rfl⟩
    | cons result results => exact ⟨nofun, nofun⟩
  | cons item items ih =>
    rw [List.mapM_cons, List.map_cons]
    cases first : f item with
    | error e =>
      refine ⟨nofun, fun h => ?_⟩
      cases results <;> cases h
    | ok b =>
      cases rest : items.mapM f with
      | error e =>
        refine ⟨nofun, fun h => ?_⟩
        cases results with
        | nil => cases h
        | cons result results =>
          have later := ih.mpr (List.cons.inj h).2
          rw [rest] at later
          cases later
      | ok bs =>
        refine ⟨fun h => ?_, fun h => ?_⟩
        · cases h
          rw [List.map_cons, ih.mp rest]
        · cases results with
          | nil => cases h
          | cons result results =>
            obtain ⟨same, others⟩ := List.cons.inj h
            cases same
            have later := ih.mpr others
            rw [rest] at later
            cases later
            rfl

theorem mapM_of_ok {g : α → β} (each : ∀ a ∈ items, f a = .ok (g a)) : items.mapM f = .ok (items.map g) := by
  rw [mapM_eq_ok, List.map_map]
  exact List.map_congr_left each

end MapM

namespace Query

def stated (plan : Plan) (request : Request) (expression : Option String) (box : Option BoundingBox)
    (projected : List Nat) (attributes : List (Nat × Nat)) : Statement :=
  let columns := projected.map fun i => Projected.field (fieldName plan.fields i)
  let payload := if request.noGeometry then [] else [Projected.payload plan.geometry.encoding plan.geometry.column]
  let visible := columns ++ payload ++ rawColumns plan projected
  let (id, idName, identity) := idColumn plan projected visible.length
  let projection := visible ++ identity
  {
    projection
    source := plan.source
    spec := plan.geometry
    filters :=
      (request.featureIds.map (Filter.ids idName)).toList ++ (expression.map Filter.expression).toList ++
        (plan.subsetFilter.map Filter.subset).toList ++ (box.map (Filter.box plan.geometry)).toList
    sampleLimit := plan.sampleLimit
    layout := {
      attributes
      geometry := if request.noGeometry then none else some columns.length
      id
      width := projection.length
    }
  }

def columnOf (fields : List Field) (projected : List Nat) (field : Nat) : Except Layer.Error (Nat × Nat) :=
  match projected.idxOf? field with
  | some column => pure (field, column)
  | none => .error (.unknownField (fieldName fields field))

variable {plan : Plan} {request : Request} {expression : Option String} {box : Option BoundingBox}
  {statement : Statement}

theorem compose_eq (plan : Plan) (request : Request) (expression : Option String) (box : Option BoundingBox) :
    compose plan request expression box = (do
      let output ← outputFields plan.fields plan.primaryKey request
      let projected := projectedFields plan request expression output
      let attributes ← output.mapM (columnOf plan.fields projected)
      return stated plan request expression box projected attributes) := rfl

theorem compose_ok (h : compose plan request expression box = .ok statement) :
    ∃ output attributes, outputFields plan.fields plan.primaryKey request = .ok output ∧
      statement = stated plan request expression box (projectedFields plan request expression output) attributes := by
  rw [compose_eq] at h
  cases outputs : outputFields plan.fields plan.primaryKey request with
  | error e => rw [outputs] at h; cases h
  | ok output =>
    rw [outputs] at h
    dsimp only [Bind.bind, Except.bind] at h
    split at h
    · cases h
    · rename_i attributes _
      cases h
      exact ⟨output, attributes, rfl, rfl⟩

theorem mem_appendNew {indexes : List Nat} {index i : Nat} : i ∈ appendNew indexes index ↔ i ∈ indexes ∨ i = index := by
  unfold appendNew
  split
  · rename_i present
    exact ⟨.inl, fun either => either.elim id fun same => same ▸ present⟩
  · rw [List.mem_append, List.mem_singleton]

theorem requestedFields_lt {fields : List Field} {names : List String} {done output : List Nat}
    (inside : ∀ i ∈ done, i < fields.length) (h : requestedFields fields done names = .ok output) :
    ∀ i ∈ output, i < fields.length := by
  induction names generalizing done with
  | nil =>
    cases h
    exact inside
  | cons name names ih =>
    rw [requestedFields] at h
    split at h
    · rename_i index found
      refine ih (fun i member => ?_) h
      rcases mem_appendNew.mp member with before | rfl
      · exact inside i before
      · exact (List.findIdx?_eq_some_iff_findIdx_eq.mp found).1
    · cases h

theorem outputFields_ok {fields : List Field} {primaryKey : Option Nat} {output : List Nat}
    (keyed : ∀ key, primaryKey = some key → key < fields.length)
    (h : outputFields fields primaryKey request = .ok output) :
    (∀ i ∈ output, i < fields.length) ∧ ∀ key, primaryKey = some key → key ∈ output := by
  unfold outputFields at h
  split at h
  · cases h
    exact ⟨fun i => List.mem_range.mp, fun key same => List.mem_range.mpr (keyed key same)⟩
  · rename_i names _
    cases requested : requestedFields fields [] names with
    | error e => rw [requested] at h; cases h
    | ok indexes =>
      rw [requested] at h
      have inside := requestedFields_lt (fun _ member => absurd member List.not_mem_nil) requested
      cases primaryKey with
      | none =>
        cases h
        exact ⟨inside, nofun⟩
      | some key =>
        cases h
        refine ⟨fun i member => ?_, fun key' same => ?_⟩
        · rcases mem_appendNew.mp member with before | rfl
          · exact inside i before
          · exact keyed i rfl
        · cases same
          exact mem_appendNew.mpr (.inr rfl)

theorem output_subset_projected {output : List Nat} (inside : ∀ i ∈ output, i < plan.fields.length) :
    ∀ i ∈ output, i ∈ projectedFields plan request expression output := by
  intro i member
  unfold projectedFields
  split
  · exact member
  · exact List.mem_range.mpr (inside i member)

theorem compose_of_output {output : List Nat} (expression : Option String) (box : Option BoundingBox)
    (outputs : outputFields plan.fields plan.primaryKey request = .ok output)
    (inside : ∀ i ∈ output, i < plan.fields.length) :
    compose plan request expression box = .ok (
      let projected := projectedFields plan request expression output
      stated plan request expression box projected (output.map fun field => (field, projected.idxOf field))) := by
  have columns : output.mapM (columnOf plan.fields (projectedFields plan request expression output)) =
      .ok (output.map fun field => (field, (projectedFields plan request expression output).idxOf field)) := by
    refine mapM_of_ok fun field member => ?_
    have present : field ∈ projectedFields plan request expression output :=
      output_subset_projected inside field member
    unfold columnOf
    rw [List.idxOf_eq_getD_idxOf?]
    cases found : (projectedFields plan request expression output).idxOf? field with
    | none => exact absurd present (List.idxOf?_eq_none_iff.mp found)
    | some column => rfl
  rw [compose_eq, outputs]
  dsimp only [Bind.bind, Except.bind]
  rw [columns]
  rfl

/-- A request fails to be composed for the sake of its output fields only. -/
theorem compose_total (keyed : ∀ key, plan.primaryKey = some key → key < plan.fields.length) (request : Request)
    (expression : Option String) (box : Option BoundingBox) :
    compose plan request expression box = (outputFields plan.fields plan.primaryKey request).map fun output =>
      let projected := projectedFields plan request expression output
      stated plan request expression box projected (output.map fun field => (field, projected.idxOf field)) := by
  cases outputs : outputFields plan.fields plan.primaryKey request with
  | error e =>
    rw [compose_eq, outputs]
    rfl
  | ok output => exact compose_of_output expression box outputs (outputFields_ok keyed outputs).1

section Projection

variable (plan : Plan) (request : Request) (expression : Option String) (box : Option BoundingBox)
  (projected : List Nat) (attributes : List (Nat × Nat))

def visible : List Projected :=
  (projected.map fun i => Projected.field (fieldName plan.fields i)) ++
    (if request.noGeometry then [] else [Projected.payload plan.geometry.encoding plan.geometry.column]) ++
    rawColumns plan projected

theorem stated_projection : (stated plan request expression box projected attributes).projection =
    visible plan request projected ++ (idColumn plan projected (visible plan request projected).length).2.2 := rfl

theorem stated_id : (stated plan request expression box projected attributes).layout.id =
    (idColumn plan projected (visible plan request projected).length).1 := rfl

theorem stated_geometry : (stated plan request expression box projected attributes).layout.geometry =
    if request.noGeometry then none else some projected.length := by
  have columns : (projected.map fun i => Projected.field (fieldName plan.fields i)).length = projected.length :=
    List.length_map _
  rw [← columns]
  rfl

theorem stated_width : (stated plan request expression box projected attributes).layout.width =
    (stated plan request expression box projected attributes).projection.length := rfl

def identity : Projected :=
  match plan.primaryKey with
  | some key => .field (fieldName plan.fields key)
  | none => .rowNumber

theorem stated_filters : (stated plan request expression box projected attributes).filters =
    (request.featureIds.map (Filter.ids (identity plan).name)).toList ++ (expression.map Filter.expression).toList ++
      (plan.subsetFilter.map Filter.subset).toList ++ (box.map (Filter.box plan.geometry)).toList := by
  have named : (idColumn plan projected (visible plan request projected).length).2.1 = (identity plan).name := by
    unfold idColumn identity
    cases plan.primaryKey with
    | none => rfl
    | some key =>
      dsimp only
      split <;> rfl
  rw [← named]
  rfl

end Projection

end Query

end FeatureLayers
