import FeatureLayers.Proofs.Query.Output
import FeatureLayers.Proofs.Query.Parts
import FeatureLayers.Proofs.Query.Slot
import Mathlib.Data.List.Find

namespace FeatureLayers

def Source.names : Source → List String
  | .table schema name => schema.toList ++ [name]
  | .query _ => []

namespace Query

open Token

def comparedNames (plan : Plan) (request : Request) : List String :=
  plan.fields.map (·.name) ++ plan.geometry.column :: request.attributes.getD []

/-- All that is not a name is the same, and the same of the names are present and equal. -/
structure Alike (plan plan' : Plan) (request request' : Request) : Prop where
  isQuery : plan'.source.isQuery = plan.source.isQuery
  sourceNames : plan'.source.names.length = plan.source.names.length
  fields : plan'.fields.length = plan.fields.length
  primaryKey : plan'.primaryKey = plan.primaryKey
  encoding : plan'.geometry.encoding = plan.geometry.encoding
  kind : plan'.geometry.kind = plan.geometry.kind
  srid : plan'.geometry.srid = plan.geometry.srid
  subsetFilter : plan'.subsetFilter = plan.subsetFilter
  sampleLimit : plan'.sampleLimit = plan.sampleLimit
  featureIds : request'.featureIds = request.featureIds
  noGeometry : request'.noGeometry = request.noGeometry
  attributes : request'.attributes.map List.length = request.attributes.map List.length
  equal : ∀ i j : Nat, (comparedNames plan' request')[i]? = (comparedNames plan' request')[j]? ↔
    (comparedNames plan request)[i]? = (comparedNames plan request)[j]?

section Renaming

theorem renaming_of_equal {names names' : List String} (long : names'.length = names.length)
    (equal : ∀ i j : Nat, names'[i]? = names'[j]? ↔ names[i]? = names[j]?) :
    ∃ f : String → String, names' = names.map f ∧ ∀ a ∈ names, ∀ b ∈ names, f a = f b → a = b := by
  -- a name goes to what stands at its first place; equal places make that the same at every other
  let f (name : String) : String := names'.getD (names.idxOf name) ""
  have at_place {name : String} (member : name ∈ names) : names'[names.idxOf name]? = some (f name) := by
    have inside : names.idxOf name < names'.length := long ▸ List.idxOf_lt_length_iff.mpr member
    simp only [f, List.getD_eq_getElem?_getD, List.getElem?_eq_getElem inside, Option.getD_some]
  refine ⟨f, List.ext_getElem? fun i => ?_, fun a a_member b b_member same => ?_⟩
  · rw [List.getElem?_map]
    cases here : names[i]? with
    | none => rw [List.getElem?_eq_none (long ▸ List.getElem?_eq_none_iff.mp here)]; rfl
    | some name =>
      have member := List.mem_of_getElem? here
      have first : names[names.idxOf name]? = names[i]? := (List.getElem?_idxOf member).trans here.symm
      rw [← (equal _ _).mpr first, at_place member]
      rfl
  · have places : names'[names.idxOf a]? = names'[names.idxOf b]? := by
      rw [at_place a_member, at_place b_member, same]
    have originals := (equal _ _).mp places
    rw [List.getElem?_idxOf a_member, List.getElem?_idxOf b_member] at originals
    exact Option.some.inj originals

theorem equal_of_renaming {names : List String} {f : String → String}
    (injective : ∀ a ∈ names, ∀ b ∈ names, f a = f b → a = b) (i j : Nat) :
    (names.map f)[i]? = (names.map f)[j]? ↔ names[i]? = names[j]? := by
  rw [List.getElem?_map, List.getElem?_map]
  refine ⟨fun same => ?_, congrArg (Option.map f)⟩
  cases first : names[i]? with
  | none =>
    rw [first, Option.map_none, eq_comm, Option.map_eq_none_iff] at same
    exact same.symm
  | some a =>
    rw [first, Option.map_some, eq_comm, Option.map_eq_some_iff] at same
    obtain ⟨b, second, equal⟩ := same
    rw [second, injective b (List.mem_of_getElem? second) a (List.mem_of_getElem? first) equal]

/-- A plan and a request with new names for the old ones, different ones for different ones. -/
structure Renames (f : String → String) (plan plan' : Plan) (request request' : Request) : Prop where
  fields : plan'.fields.map (·.name) = (plan.fields.map (·.name)).map f
  column : plan'.geometry.column = f plan.geometry.column
  attributes : request'.attributes = request.attributes.map (List.map f)
  injective : ∀ a ∈ comparedNames plan request, ∀ b ∈ comparedNames plan request, f a = f b → a = b

theorem Alike.renames {plan plan' : Plan} {request request' : Request} (alike : Alike plan plan' request request') :
    ∃ f, Renames f plan plan' request request' := by
  have asked : (request'.attributes.getD []).length = (request.attributes.getD []).length := by
    rw [← Option.getD_map List.length, ← Option.getD_map List.length, alike.attributes]
  have long : (comparedNames plan' request').length = (comparedNames plan request).length := by
    simp only [comparedNames, List.length_append, List.length_map, List.length_cons, alike.fields, asked]
  obtain ⟨f, names, injective⟩ := renaming_of_equal long alike.equal
  rw [comparedNames, comparedNames, List.map_append, List.map_cons] at names
  obtain ⟨fields, others⟩ := List.append_inj names (by simp only [List.length_map, alike.fields])
  obtain ⟨column, attributes⟩ := List.cons.inj others
  refine ⟨f, fields, column, ?_, injective⟩
  have lengths := alike.attributes
  cases before : request.attributes with
  | none =>
    rw [before, Option.map_none, Option.map_eq_none_iff] at lengths
    rw [lengths, Option.map_none]
  | some names =>
    rw [before, Option.map_some, Option.map_eq_some_iff] at lengths
    obtain ⟨names', after, -⟩ := lengths
    rw [before, after] at attributes
    rw [after]
    exact congrArg some attributes

variable {f : String → String} {plan plan' : Plan} {request request' : Request}

theorem findIdx?_renamed {names : List String} {name : String} (injective : ∀ a ∈ names, f a = f name → a = name) :
    (names.map f).findIdx? (· = f name) = names.findIdx? (· = name) := by
  induction names with
  | nil => rfl
  | cons a names ih =>
    have others := ih fun b member => injective b (List.mem_cons_of_mem _ member)
    have first : f a = f name ↔ a = name := ⟨injective a List.mem_cons_self, congrArg f⟩
    simp only [List.map_cons, List.findIdx?_cons, others, first]

namespace Renames

theorem findIdx_eq (renames : Renames f plan plan' request request') {name : String}
    (asked : name ∈ comparedNames plan request) :
    plan'.fields.findIdx? (·.name = f name) = plan.fields.findIdx? (·.name = name) := by
  have listed (fields : List Field) (name : String) :
      fields.findIdx? (·.name = name) = (fields.map (·.name)).findIdx? (· = name) := by
    rw [List.findIdx?_map]
    rfl
  rw [listed, listed, renames.fields]
  exact findIdx?_renamed fun a member => renames.injective a (List.mem_append_left _ member) name asked

theorem asked_mem {names : List String} (asked : request.attributes = some names) {name : String}
    (member : name ∈ names) : name ∈ comparedNames plan request := by
  rw [comparedNames, asked]
  exact List.mem_append_right _ (List.mem_cons_of_mem _ member)

theorem length_eq (renames : Renames f plan plan' request request') : plan'.fields.length = plan.fields.length := by
  have lengths := congrArg List.length renames.fields
  simpa only [List.length_map] using lengths

theorem firstUnknown_eq (renames : Renames f plan plan' request request') :
    firstUnknown? plan'.fields request' = (firstUnknown? plan.fields request).map f := by
  unfold firstUnknown?
  rw [renames.attributes]
  cases asked : request.attributes with
  | none => rfl
  | some names =>
    rw [Option.map_some, Option.bind_some, Option.bind_some, List.find?_map]
    refine congrArg (Option.map f) (List.find?_congr fun name member => ?_)
    rw [Function.comp_apply, ← List.findIdx?_isSome, ← List.findIdx?_isSome, renames.findIdx_eq (asked_mem asked member)]

theorem outputOf_eq (renames : Renames f plan plan' request request') (primaryKey : Option Nat) :
    outputOf plan'.fields primaryKey request' = outputOf plan.fields primaryKey request := by
  unfold outputOf
  rw [renames.attributes]
  cases asked : request.attributes with
  | none => exact congrArg List.range renames.length_eq
  | some names =>
    have same : askedFields plan'.fields (names.map f) = askedFields plan.fields names := by
      rw [askedFields, askedFields, List.filterMap_map]
      exact congrArg List.eraseDups (List.filterMap_congr fun name member => renames.findIdx_eq (asked_mem asked member))
    rw [Option.map_some]
    dsimp only
    rw [same]

theorem fieldName_eq (renames : Renames f plan plan' request request') {i : Nat} (inside : i < plan.fields.length) :
    fieldName plan'.fields i = f (fieldName plan.fields i) := by
  have here := congrArg (·[i]?) renames.fields
  simp only [List.getElem?_map] at here
  rw [fieldName, fieldName, here, List.getElem?_eq_getElem inside]
  rfl

theorem carriesGeometry_eq (renames : Renames f plan plan' request request') {projected : List Nat}
    (inside : ∀ i ∈ projected, i < plan.fields.length) :
    carriesGeometry plan' projected = carriesGeometry plan projected := by
  have column : plan.geometry.column ∈ comparedNames plan request := List.mem_append_right _ List.mem_cons_self
  have field {i : Nat} (here : i < plan.fields.length) : fieldName plan.fields i ∈ comparedNames plan request := by
    rw [fieldName, List.getElem?_eq_getElem here]
    exact List.mem_append_left _ (List.mem_map_of_mem (List.getElem_mem here))
  rw [Bool.eq_iff_iff, carriesGeometry, carriesGeometry, List.any_eq_true, List.any_eq_true]
  refine exists_congr fun i => and_congr_right fun member => ?_
  have here := inside i member
  rw [decide_eq_true_iff, decide_eq_true_iff, renames.fieldName_eq here, renames.column]
  exact ⟨renames.injective _ (field here) _ column, congrArg f⟩

end Renames

end Renaming

def statementFor (plan : Plan) (request : Request) (expression : Option String) (box : Option BoundingBox) : Statement :=
  let output := outputOf plan.fields plan.primaryKey request
  let projected := projectedFields plan request expression output
  stated plan request expression box projected (indexed projected output)

section Composed

variable {plan : Plan} {request : Request} {expression : Option String} {box : Option BoundingBox}
  (keyed : ∀ key, plan.primaryKey = some key → key < plan.fields.length)

include keyed

theorem compose_known : compose plan request expression box = match firstUnknown? plan.fields request with
    | some name => .error (.unknownField name)
    | none => .ok (statementFor plan request expression box) := by
  rw [compose_total keyed, outputFields_eq]
  cases firstUnknown? plan.fields request <;> rfl

variable (known : firstUnknown? plan.fields request = none)

include known

theorem selected_inside :
    let output := outputOf plan.fields plan.primaryKey request
    (∀ i ∈ projectedFields plan request expression output, i < plan.fields.length) ∧
      ∀ key, plan.primaryKey = some key → key ∈ projectedFields plan request expression output := by
  intro output
  have asked : outputFields plan.fields plan.primaryKey request = .ok output := by
    rw [outputFields_eq, known]
  obtain ⟨inside, chosen⟩ := outputFields_ok keyed asked
  refine ⟨?_, fun key primary => output_subset_projected inside key (chosen key primary)⟩
  unfold projectedFields
  split
  · exact inside
  · exact fun i => List.mem_range.mp

theorem statementFor_projection : (statementFor plan request expression box).projection =
    (selectedSlots plan request expression (outputOf plan.fields plan.primaryKey request)).map (Slot.projected plan) :=
  stated_slots (selected_inside keyed known).2

end Composed

theorem Renames.selectedSlots_eq {f : String → String} {plan plan' : Plan} {request request' : Request}
    (renames : Renames f plan plan' request request') (alike : Alike plan plan' request request')
    (unfiltered : plan.subsetFilter = none) (keyed : ∀ key, plan.primaryKey = some key → key < plan.fields.length)
    (known : firstUnknown? plan.fields request = none) :
    selectedSlots plan' request' none (outputOf plan'.fields plan'.primaryKey request') =
      selectedSlots plan request none (outputOf plan.fields plan.primaryKey request) := by
  have output := renames.outputOf_eq plan.primaryKey
  have asked : request'.attributes.isSome = request.attributes.isSome := by
    rw [renames.attributes, Option.isSome_map]
  have projected : projectedFields plan' request' none (outputOf plan.fields plan.primaryKey request) =
      projectedFields plan request none (outputOf plan.fields plan.primaryKey request) := by
    unfold projectedFields
    rw [alike.subsetFilter, unfiltered, asked, alike.fields]
  have inside : ∀ i ∈ projectedFields plan request none (outputOf plan.fields plan.primaryKey request),
      i < plan.fields.length := (selected_inside keyed known).1
  have carried := renames.carriesGeometry_eq inside
  rw [alike.primaryKey, output, selectedSlots, selectedSlots, projected, slots, slots, visibleSlots,
    visibleSlots, carried, alike.primaryKey, alike.noGeometry]

def builtFilters (plan : Plan) (request : Request) (box : Option BoundingBox) : List Filter :=
  (request.featureIds.map (Filter.ids (identity plan).name)).toList ++ (box.map (Filter.box plan.geometry)).toList

theorem statementFor_filters {plan : Plan} (unfiltered : plan.subsetFilter = none) (request : Request)
    (box : Option BoundingBox) : (statementFor plan request none box).filters = builtFilters plan request box := by
  rw [statementFor, stated_filters, unfiltered, builtFilters, Option.map_none, Option.map_none, Option.toList_none,
    List.append_nil, List.append_nil]

theorem builtFilters_built (plan : Plan) (request : Request) (box : Option BoundingBox) :
    ∀ filter ∈ builtFilters plan request box, filter.isBuilt := by
  intro filter member
  rcases List.mem_append.mp member with ids | rectangle
  · obtain ⟨wanted, -, rfl⟩ := Option.map_eq_some_iff.mp (Option.mem_toList.mp ids)
    rfl
  · obtain ⟨wanted, -, rfl⟩ := Option.map_eq_some_iff.mp (Option.mem_toList.mp rectangle)
    rfl

section Identifiers

theorem identifiers_projected (column : Projected) : identifiers column.parts = column.names := by
  cases column with
  | field name | rawGeometry name | key name | rowNumber => simp [Projected.parts, Projected.names]
  | payload encoding name => cases encoding <;> simp [Projected.parts, Projected.names]

theorem identifiers_source {source : Source} (table : source.isQuery = false) :
    identifiers (sourceParts source) = source.names := by
  cases source with
  | query sql => cases table
  | table schema name => cases schema <;> simp [sourceParts, Source.names]

theorem identifiers_guard (spec : GeometryColumn) : identifiers (guardParts spec) = [spec.column] := by
  unfold guardParts
  cases spec.encoding <;> cases spec.kind <;> simp [List.flatMap_eq_nil_iff]

theorem identifiers_filter {filter : Filter} (built : filter.isBuilt) : identifiers filter.parts = filter.names := by
  cases filter with
  | expression text | subset text => cases built
  | box spec wanted => simp [Filter.parts, boxParts, Filter.names]
  | ids column wanted => cases wanted <;> simp [Filter.parts, Filter.names, List.flatMap_eq_nil_iff]

theorem Statement.identifiers_parts {s : Statement} (table : s.source.isQuery = false)
    (built : ∀ filter ∈ s.filters, filter.isBuilt) : identifiers s.parts =
      s.projection.flatMap Projected.names ++ (s.source.names ++ (s.spec.column :: s.filters.flatMap Filter.names)) := by
  have columns : (s.projection.map Projected.parts).flatMap identifiers = s.projection.flatMap Projected.names := by
    rw [List.flatMap_map]
    exact List.flatMap_congr fun column _ => identifiers_projected column
  have filters : identifiers s.filterParts = s.filters.flatMap Filter.names := by
    unfold filterParts
    split
    · rename_i none
      rw [List.isEmpty_iff.mp none]
      rfl
    · rw [identifiers_append, identifiers_signs, List.nil_append, identifiers_intercalate, List.flatMap_map]
      exact List.flatMap_congr fun filter member => identifiers_filter (built filter member)
  simp only [parts, identifiers_append, identifiers_signs, identifiers_intercalate, columns, filters,
    identifiers_source table, identifiers_guard, List.nil_append, List.append_nil, List.singleton_append]

end Identifiers

section Outside

variable {plan plan' : Plan} {request request' : Request}

namespace Alike

variable (alike : Alike plan plan' request request')

include alike

theorem outside_column (slot : Slot) :
    outside (slot.projected plan').parts = outside (slot.projected plan).parts := by
  cases slot with
  | field index | rawGeometry | rowNumber => rfl
  | payload =>
    rw [Slot.projected, Slot.projected, alike.encoding]
    cases plan.geometry.encoding <;> simp [Projected.parts]

theorem outside_source (table : plan.source.isQuery = false) :
    outside (sourceParts plan'.source) = outside (sourceParts plan.source) := by
  have lengths := alike.sourceNames
  have table' := alike.isQuery.trans table
  cases before : plan.source with
  | query sql => rw [before] at table; cases table
  | table schema name =>
    cases after : plan'.source with
    | query sql => rw [after] at table'; cases table'
    | table schema' name' =>
      rw [before, after] at lengths
      cases schema <;> cases schema' <;> simp_all [sourceParts, Source.names]

theorem outside_guard : outside (guardParts plan'.geometry) = outside (guardParts plan.geometry) := by
  unfold guardParts
  rw [alike.encoding, alike.kind]
  cases plan.geometry.encoding <;> cases plan.geometry.kind <;> simp

theorem outside_filters (box : Option BoundingBox) :
    (builtFilters plan' request' box).map (outside ∘ Filter.parts) =
      (builtFilters plan request box).map (outside ∘ Filter.parts) := by
  have ids (wanted : List Int) : outside (Filter.ids (identity plan').name wanted).parts =
      outside (Filter.ids (identity plan).name wanted).parts := by
    cases wanted <;> simp [Filter.parts]
  have rectangle (wanted : BoundingBox) : outside (Filter.box plan'.geometry wanted).parts =
      outside (Filter.box plan.geometry wanted).parts := by
    have frame : boxFrame plan'.geometry = boxFrame plan.geometry := by
      rw [boxFrame, boxFrame, alike.encoding, alike.srid]
    simp [Filter.parts, boxParts, frame]
  rw [builtFilters, builtFilters, alike.featureIds]
  cases request.featureIds <;> cases box <;> simp [ids, rectangle]

end Alike

theorem Statement.outside_parts {s s' : Statement}
    (columns : s'.projection.map (outside ∘ Projected.parts) = s.projection.map (outside ∘ Projected.parts))
    (source : outside (sourceParts s'.source) = outside (sourceParts s.source))
    (guard : outside (guardParts s'.spec) = outside (guardParts s.spec))
    (filters : s'.filters.map (outside ∘ Filter.parts) = s.filters.map (outside ∘ Filter.parts))
    (limit : s'.sampleLimit = s.sampleLimit) : outside s'.parts = outside s.parts := by
  have empty : s'.filters.isEmpty = s.filters.isEmpty := by
    have lengths := congrArg List.length filters
    rw [List.length_map, List.length_map] at lengths
    rw [Bool.eq_iff_iff, List.isEmpty_iff_length_eq_zero, List.isEmpty_iff_length_eq_zero, lengths]
  have filterParts : outside s'.filterParts = outside s.filterParts := by
    unfold Statement.filterParts
    rw [empty]
    split
    · rfl
    · rw [outside_append, outside_append, outside_intercalate, outside_intercalate, List.map_map, List.map_map, filters]
  have order : s'.orderLimit = s.orderLimit := congrArg (Option.map samplingText) limit
  simp only [parts, outside_append, outside_intercalate, List.map_map, columns, source, guard, filterParts, order]

end Outside

section Confined

variable {plan : Plan} (table : plan.source.isQuery = false) (unfiltered : plan.subsetFilter = none)
  (keyed : ∀ key, plan.primaryKey = some key → key < plan.fields.length)

include table unfiltered

theorem statementFor_splits (request : Request) (box : Option BoundingBox) :
    Splits (statementFor plan request none box).toSql (statementFor plan request none box).parts := by
  refine Statement.splits (sourceParts_splits table) ?_
  rw [statementFor_filters unfiltered]
  exact fun filter member => Filter.splits (builtFilters_built plan request box filter member)

include keyed

/--
A statement is what its tokens are when they are written out again. Its identifiers are the names in the order of the
projection, the source, the guard and the filters, and the rest of it is the same whatever the names are.
-/
theorem names_are_confined (request : Request) (box : Option BoundingBox) :
    (∀ statement, compose plan request none box = .ok statement →
      (tokens statement.toSql).flatMap write = statement.toSql.toList ∧
      identifiers (tokens statement.toSql) =
        (selectedSlots plan request none (outputOf plan.fields plan.primaryKey request)).flatMap
            (fun slot => (slot.projected plan).names) ++
          (plan.source.names ++ (plan.geometry.column :: (builtFilters plan request box).flatMap Filter.names))) ∧
    ∀ plan' request', Alike plan plan' request request' →
      (compose plan' request' none box).toOption.map (fun statement => outside (tokens statement.toSql)) =
        (compose plan request none box).toOption.map (fun statement => outside (tokens statement.toSql)) := by
  refine ⟨fun statement composed => ?_, fun plan' request' alike => ?_⟩
  · rw [compose_known keyed] at composed
    cases known : firstUnknown? plan.fields request with
    | some name => rw [known] at composed; cases composed
    | none =>
      rw [known] at composed
      cases composed
      have splits := statementFor_splits table unfiltered request box
      have built := builtFilters_built plan request box
      rw [← statementFor_filters unfiltered] at built ⊢
      refine ⟨?_, ?_⟩
      · rw [splits.tokens_eq, splits.written]
      · rw [splits.tokens_eq, Statement.identifiers_parts table built, statementFor_projection keyed known,
          List.flatMap_map]
        rfl
  · -- the two requests fail together, and where they do not, they select the same slots
    obtain ⟨f, renames⟩ := alike.renames
    have table' : plan'.source.isQuery = false := alike.isQuery.trans table
    have unfiltered' : plan'.subsetFilter = none := alike.subsetFilter.trans unfiltered
    have keyed' : ∀ key, plan'.primaryKey = some key → key < plan'.fields.length := by
      intro key primary
      rw [alike.fields]
      exact keyed key (alike.primaryKey.symm.trans primary)
    rw [compose_known keyed, compose_known keyed', renames.firstUnknown_eq]
    cases known : firstUnknown? plan.fields request with
    | some name => rfl
    | none =>
      have known' : firstUnknown? plan'.fields request' = none := by
        rw [renames.firstUnknown_eq, known, Option.map_none]
      have splits := statementFor_splits table unfiltered request box
      have splits' := statementFor_splits table' unfiltered' request' box
      have selected := renames.selectedSlots_eq alike unfiltered keyed known
      have same : outside (statementFor plan' request' none box).parts =
          outside (statementFor plan request none box).parts := by
        refine Statement.outside_parts ?_ (alike.outside_source table) alike.outside_guard ?_ alike.sampleLimit
        · rw [statementFor_projection keyed' known', statementFor_projection keyed known, selected, List.map_map,
            List.map_map]
          exact List.map_congr_left fun slot _ => alike.outside_column slot
        · rw [statementFor_filters unfiltered', statementFor_filters unfiltered]
          exact alike.outside_filters box
      rw [Option.map_none]
      dsimp only [Except.toOption, Option.map_some]
      rw [splits.tokens_eq, splits'.tokens_eq, same]

end Confined

def quays : Plan where
  source := .table (some "PORT") "QUAYS"
  fields := [⟨"ID", "INTEGER", .int⟩, ⟨"NAME", "TEXT", .text⟩, ⟨"SHAPE", "TEXT", .text⟩]
  primaryKey := some 0
  geometry := ⟨"SHAPE", .geography, some .multiPoint, some 4326⟩
  subsetFilter := none
  sampleLimit := some 10

def quotedQuays : Plan where
  source := .table (some "\"") "\"; DROP TABLE \"QUAYS"
  fields := [⟨"'\"", "INTEGER", .int⟩, ⟨"N\", (SELECT 1) AS \"N", "TEXT", .text⟩, ⟨"') OR ('1'='1", "TEXT", .text⟩]
  primaryKey := some 0
  geometry := ⟨"') OR ('1'='1", .geography, some .multiPoint, some 4326⟩
  subsetFilter := none
  sampleLimit := some 10

def quotedName (name : String) : String :=
  if name = "ID" then "'\"" else if name = "NAME" then "N\", (SELECT 1) AS \"N" else "') OR ('1'='1"

/-- Quotes, parentheses and semicolons in names do not leave the identifiers. -/
theorem quoted_names_of_quays_are_confined :
    let request := { Request.all with attributes := some ["NAME"], featureIds := some [7, 8] }
    let request' := { Request.all with attributes := some ["N\", (SELECT 1) AS \"N"], featureIds := some [7, 8] }
    let box : BoundingBox := ⟨.zero, .zero, .two, .two⟩
    quotedQuays.source.isQuery = false ∧ quotedQuays.subsetFilter = none ∧
      (∀ key, quotedQuays.primaryKey = some key → key < quotedQuays.fields.length) ∧
      Alike quotedQuays quays request' request ∧
      ∃ statement statement', compose quays request none (some box) = .ok statement ∧
        compose quotedQuays request' none (some box) = .ok statement' ∧
        identifiers (tokens statement'.toSql) =
          ["N\", (SELECT 1) AS \"N", "'\"", "') OR ('1'='1", "geoflake_geometry", "') OR ('1'='1", "\"",
            "\"; DROP TABLE \"QUAYS", "') OR ('1'='1", "'\"", "') OR ('1'='1"] ∧
        outside (tokens statement.toSql) = outside (tokens statement'.toSql) := by
  intro request request' box
  have keyed : ∀ key, quays.primaryKey = some key → key < quays.fields.length := by
    rintro key same
    cases same
    decide
  have keyed' : ∀ key, quotedQuays.primaryKey = some key → key < quotedQuays.fields.length := by
    rintro key same
    cases same
    decide
  have alike : Alike quotedQuays quays request' request := by
    refine ⟨rfl, rfl, rfl, rfl, rfl, rfl, rfl, rfl, rfl, rfl, rfl, rfl, fun i j => ?_⟩
    have injective : ∀ a ∈ comparedNames quays request, ∀ b ∈ comparedNames quays request,
        quotedName a = quotedName b → a = b := by decide
    exact (equal_of_renaming injective i j).symm
  have composed : compose quays request none (some box) = .ok (statementFor quays request none (some box)) := by
    rw [compose_known keyed]
    rfl
  have composed' : compose quotedQuays request' none (some box) =
      .ok (statementFor quotedQuays request' none (some box)) := by
    rw [compose_known keyed']
    rfl
  have table : quotedQuays.source.isQuery = false := rfl
  have confined := names_are_confined table rfl keyed' request' (some box)
  have same := confined.2 quays request alike
  rw [composed, composed'] at same
  refine ⟨rfl, rfl, keyed', alike, _, _, composed, composed', ?_, Option.some.inj same⟩
  rw [(confined.1 _ composed').2]
  rfl

end Query

end FeatureLayers
