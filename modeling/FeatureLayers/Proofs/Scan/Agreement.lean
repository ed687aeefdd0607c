import FeatureLayers.Proofs.Decode.Shown
import FeatureLayers.Proofs.Query.Parts
import FeatureLayers.Proofs.Scan.Yield
import FeatureLayers.Wkb.Writer

namespace FeatureLayers

open Warehouse (Session)

/--
The column of the inner selection that an outer filter names. A name that other columns share stands for the one that ids
are read from.
-/
def Query.Statement.named? (statement : Statement) (name : String) : Option Projected :=
  (statement.projection[statement.layout.id]?.toList ++ statement.projection).find? (·.name = name)

/-- Whether the warehouse lets a row through. All rows are taken to meet the subset filter. -/
def SourceRow.passes (row : SourceRow) (statement : Query.Statement)
    (intersects : GeometryColumn → BoundingBox → Value → Bool) : Query.Filter → Bool
  | .ids column wanted => wanted.any fun n => (statement.named? column).map row.cell = some (.int n)
  | .box spec box => intersects spec box row.payload
  | .expression _ | .subset _ => true

def Query.Statement.answer (statement : Statement) (intersects : GeometryColumn → BoundingBox → Value → Bool)
    (rows : List SourceRow) : List Row :=
  (rows.filter fun row => statement.filters.all (row.passes statement intersects)).map (·.shown statement)

theorem Query.Statement.named?_of_id {statement : Statement} {entry : Projected}
    (id : statement.projection[statement.layout.id]? = some entry) : statement.named? entry.name = some entry := by
  rw [named?, id]
  exact List.find?_cons_of_pos (by simp)

namespace Scan

variable {base : ScanBase} {spec : GeometryColumn} {request : Request}

def selectionOf (request : Request) (transform : Option Crs.Transform) (output : List Nat) : Selection :=
  ⟨request.featureIds, sourceBox request transform, request.attributes.map fun _ => output, request.noGeometry⟩

theorem selectionFor_eq (base : ScanBase) (request : Request) (transform : Option Crs.Transform) :
    selectionFor base request transform =
      (Query.outputFields base.fields base.primaryKey request).map (selectionOf request transform) := by
  unfold selectionFor selectionOf
  cases wanted : request.attributes with
  | none =>
    have all : Query.outputFields base.fields base.primaryKey request = .ok (List.range base.fields.length) := by
      unfold Query.outputFields
      rw [wanted]
    rw [all]
    rfl
  | some names =>
    dsimp only
    cases Query.outputFields base.fields base.primaryKey request <;> rfl

variable {row : SourceRow} {feature : Feature} {output : List Nat}
  {intersects : GeometryColumn → BoundingBox → Value → Bool}

/-- The warehouse lets a row through exactly when the selection admits what it loads as. -/
theorem passes_eq_admits (loads : row.LoadsAs (queryPlan base spec) feature) (transform : Option Crs.Transform)
    (present : ∀ key, base.primaryKey = some key →
      key ∈ Query.projectedFields (queryPlan base spec) request none output)
    (agrees : ∀ box, intersects spec box row.payload = feature.geometry.any (·.meetsRect box.toRect)) :
    let statement := Query.statementOf (queryPlan base spec) request none (sourceBox request transform) output
    statement.filters.all (row.passes statement intersects) = (selectionOf request transform output).admits feature := by
  intro statement
  let column := (Query.identity (queryPlan base spec)).name
  have entry : statement.projection[statement.layout.id]? = some (Query.identity (queryPlan base spec)) :=
    Query.projection_id present
  have read : (statement.named? column).map row.cell = some (.int feature.id) := by
    rw [Query.Statement.named?_of_id entry, Option.map_some, loads.id]
  have named (wanted : List Int) :
      (wanted.any fun n => (statement.named? column).map row.cell = some (.int n)) = wanted.contains feature.id := by
    rw [List.contains_eq_any_beq, read]
    refine congrArg wanted.any (funext fun n => ?_)
    simp [BEq.beq]
  let passes := row.passes statement intersects
  let selection := selectionOf request transform output
  have ids : (request.featureIds.map (Query.Filter.ids column)).toList.all passes = selection.admitsId feature.id := by
    unfold selection selectionOf Selection.admitsId
    cases request.featureIds with
    | none => rfl
    | some wanted => simpa [passes, SourceRow.passes] using named wanted
  have subset : (base.subsetFilter.map Query.Filter.subset).toList.all passes = true := by
    cases base.subsetFilter <;> rfl
  have box : ((sourceBox request transform).map (Query.Filter.box spec)).toList.all passes =
      selection.admitsGeometry feature.geometry := by
    unfold selection selectionOf Selection.admitsGeometry
    cases sourceBox request transform with
    | none => rfl
    | some box => simpa [passes, SourceRow.passes] using agrees box
  calc
    statement.filters.all passes =
        (selection.admitsId feature.id && true && true && selection.admitsGeometry feature.geometry) := by
      simp only [statement, Query.statementOf, Query.stated_filters, List.all_append]
      exact congr (congrArg _ (congr (congrArg _ (congrArg (· && true) ids)) subset)) box
    _ = selection.admits feature := by rw [Bool.and_true, Bool.and_true, Selection.admits]

theorem shape_part (loads : row.LoadsAs (queryPlan base spec) feature) (transform : Option Crs.Transform)
    (outputs : Query.outputFields base.fields base.primaryKey request = .ok output) :
    (selectionOf request transform output).shape transform feature = ⟨feature.id,
      if request.noGeometry then none else feature.geometry.map (Decode.RowDecoder.moved transform),
      output.filterMap fun i => feature.attributes[i]?⟩ := by
  have attributes : (selectionOf request transform output).attributesOf feature =
      output.filterMap fun i => feature.attributes[i]? := by
    unfold selectionOf Selection.attributesOf
    cases wanted : request.attributes with
    | some names => rfl
    | none =>
      have all : output = List.range feature.attributes.length := by
        rw [Query.outputFields, wanted] at outputs
        cases outputs
        rw [loads.width]
        rfl
      have present : (List.range feature.attributes.length).map (feature.attributes[·]?) =
          feature.attributes.map some := by
        apply List.ext_getElem <;> simp
      have same := congrArg (List.filterMap id) present
      rw [all]
      simpa [List.filterMap_map] using same.symm
  have geometry : (selectionOf request transform output).geometryOf transform feature =
      if request.noGeometry then none else feature.geometry.map (Decode.RowDecoder.moved transform) := by
    unfold selectionOf Selection.geometryOf
    cases transform with
    | some t => rfl
    | none =>
      have unmoved : Decode.RowDecoder.moved none = id := rfl
      rw [unmoved, Option.map_id]
      rfl
  rw [Selection.shape, attributes, geometry]

theorem features_answer {rows : List SourceRow} {load : SourceRow → Feature}
    (keyed : ∀ key, base.primaryKey = some key → key < base.fields.length)
    (loads : ∀ row ∈ rows, row.LoadsAs (queryPlan base spec) (load row))
    (agrees : ∀ row ∈ rows, ∀ box, intersects spec box row.payload = (load row).geometry.any (·.meetsRect box.toRect))
    (transform : Option Crs.Transform)
    (outputs : Query.outputFields base.fields base.primaryKey request = .ok output) :
    let statement := Query.statementOf (queryPlan base spec) request none (sourceBox request transform) output
    let selection := selectionOf request transform output
    (Decode.RowDecoder.of statement.layout base.fields spec.encoding transform).features
      (statement.answer intersects rows) =
        ((rows.map load).filter selection.admits).map (selection.shape transform) := by
  intro statement selection
  obtain ⟨inside, chosen⟩ := Query.outputFields_ok keyed outputs
  have present (key : Nat) (primary : base.primaryKey = some key) :
      key ∈ Query.projectedFields (queryPlan base spec) request none output :=
    Query.output_subset_projected inside key (chosen key primary)
  let decoder := Decode.RowDecoder.of statement.layout base.fields spec.encoding transform
  have decodes : ∀ row ∈ rows, ∀ position,
      decoder.decode (row.shown statement) position = .ok (selection.shape transform (load row)) := by
    intro row member position
    rw [shape_part (loads row member) transform outputs, ← (loads row member).part request.noGeometry inside]
    exact Decode.RowDecoder.decode_shown rfl row transform inside present position
  have passes : ∀ row ∈ rows,
      statement.filters.all (row.passes statement intersects) = selection.admits (load row) :=
    fun row member => passes_eq_admits (loads row member) transform present (agrees row member)
  calc decoder.features (statement.answer intersects rows)
      = decoder.features ((rows.filter (selection.admits ∘ load)).map (·.shown statement)) := by
        unfold Query.Statement.answer
        rw [List.filter_congr passes]
        rfl
    _ = (rows.filter (selection.admits ∘ load)).map (selection.shape transform ∘ load) :=
        Decode.RowDecoder.features_map fun row member => decodes row (List.mem_filter.mp member).1
    _ = ((rows.map load).filter selection.admits).map (selection.shape transform) := by
        rw [List.filter_map, List.map_map]

theorem compose_all (base : ScanBase) (spec : GeometryColumn) :
    Query.compose (queryPlan base spec) .all none none =
      .ok (Query.statementOf (queryPlan base spec) .all none none (List.range base.fields.length)) :=
  Query.compose_of_output none none rfl fun _ => List.mem_range.mp

theorem loadsAs_of_decode (keyed : ∀ key, base.primaryKey = some key → key < base.fields.length)
    {whole : Query.Statement} (composed : Query.compose (queryPlan base spec) .all none none = .ok whole) {n : Int}
    (numbered : (row.shown whole).getD whole.layout.id .null = .int n) {position : Nat}
    (decoded : (Decode.RowDecoder.of whole.layout base.fields spec.encoding none).decode (row.shown whole) position =
      .ok feature) : row.LoadsAs (queryPlan base spec) feature := by
  have all := Except.ok.inj (composed.symm.trans (compose_all base spec))
  have inside : ∀ i ∈ List.range base.fields.length, i < base.fields.length := fun i => List.mem_range.mp
  have present (key : Nat) (primary : base.primaryKey = some key) :
      key ∈ Query.projectedFields (queryPlan base spec) .all none (List.range base.fields.length) :=
    Query.output_subset_projected inside key (List.mem_range.mpr (keyed key primary))
  have id : (row.shown whole).getD whole.layout.id .null = row.cell (Query.identity (queryPlan base spec)) := by
    rw [all]
    exact Query.shown_getD row _ (Query.projection_id present)
  refine SourceRow.loadsAs_of_feature (id.symm.trans numbered) position ?_
  rw [← decoded]
  exact (Decode.RowDecoder.decode_shown all row none inside present position).symm

theorem stream_all {rows : List SourceRow} {load : SourceRow → Feature}
    (keyed : ∀ key, base.primaryKey = some key → key < base.fields.length)
    (loads : ∀ row ∈ rows, row.LoadsAs (queryPlan base spec) (load row))
    (agrees : ∀ row ∈ rows, ∀ box, intersects spec box row.payload = (load row).geometry.any (·.meetsRect box.toRect))
    {whole : Query.Statement} (composed : Query.compose (queryPlan base spec) .all none none = .ok whole) {s : Session}
    (answers : s.Answers (base.endpoint.command whole.toSql) (whole.answer intersects rows)) :
    collected (stream base (some spec) .all) s = .ok (rows.map load) := by
  have unmoved := transformFor_all base spec
  rw [stream_collected rfl s (·.answer intersects rows), unmoved]
  · have outputs : Query.outputFields base.fields base.primaryKey .all = .ok (List.range base.fields.length) := rfl
    have features := features_answer keyed loads agrees none outputs
    have everything : (rows.map load).filter (selectionOf .all none (List.range base.fields.length)).admits =
        rows.map load := List.filter_true _
    have unshaped : (selectionOf .all none (List.range base.fields.length)).shape none = id := rfl
    dsimp only at features
    rw [everything, unshaped, List.map_id] at features
    have bare : sourceBox .all none = none := rfl
    dsimp only [Bind.bind, Except.bind]
    rw [bare, composed, ← features, Except.ok.inj (composed.symm.trans (compose_all base spec))]
    rfl
  · intro transform statement moves states
    cases unmoved.symm.trans moves
    cases composed.symm.trans states
    exact answers

theorem compose_splits (source : Query.Splits base.source.fromClause (Query.sourceParts base.source))
    (subset : ∀ text ∈ base.subsetFilter, Query.Splits (Query.Filter.subset text).text (Query.Filter.subset text).parts)
    (asked : Request) (box : Option BoundingBox) (statement : Query.Statement)
    (composed : Query.compose (queryPlan base spec) asked none box = .ok statement) :
    Query.Splits statement.toSql statement.parts := by
  obtain ⟨output, attributes, -, rfl⟩ := Query.compose_ok composed
  refine Query.Statement.splits source fun filter member => ?_
  rw [Query.stated_filters] at member
  rcases List.mem_append.mp member with before | boxed
  · rcases List.mem_append.mp before with before | subsetted
    · rcases List.mem_append.mp before with ids | expressed
      · obtain ⟨wanted, -, rfl⟩ := Option.map_eq_some_iff.mp (Option.mem_toList.mp ids)
        exact Query.Filter.splits rfl
      · cases expressed
    · obtain ⟨text, present, rfl⟩ := Option.map_eq_some_iff.mp (Option.mem_toList.mp subsetted)
      exact subset text present
  · obtain ⟨wanted, -, rfl⟩ := Option.map_eq_some_iff.mp (Option.mem_toList.mp boxed)
    exact Query.Filter.splits rfl

/--
Replaying agrees with streaming. The features that a stream yields of a whole source give on replay, for every request
without an expression, what a stream of that request yields: the same ids, geometries and attributes in the same order.
Only a reprojection that is not supported or a name that is not a field stops a scan, and it stops both with the same
error. The tokens of a statement are its projection and its filters, by which it is answered, if what others wrote of it
ends its quotes.
-/
theorem replay_agrees_with_stream (base : ScanBase) (spec : GeometryColumn) (request : Request) (rows : List SourceRow)
    (intersects : GeometryColumn → BoundingBox → Value → Bool) (whole : Query.Statement) (loading asking : Session)
    (keyed : ∀ key, base.primaryKey = some key → key < base.fields.length) (plain : request.expression = none)
    (composed : Query.compose (queryPlan base spec) .all none none = .ok whole)
    (decodes : ∀ row ∈ rows, ∃ feature,
      (Decode.RowDecoder.of whole.layout base.fields spec.encoding none).decode (row.shown whole) 0 = .ok feature)
    (numbered : ∀ row ∈ rows, ∃ n, (row.shown whole).getD whole.layout.id .null = .int n)
    (meets : ∀ row ∈ rows, ∀ geometry box, Decode.RowDecoder.readPayload spec.encoding row.payload = .ok geometry →
      intersects spec box row.payload = geometry.any (·.meetsRect box.toRect))
    (loaded : loading.Answers (base.endpoint.command whole.toSql) (whole.answer intersects rows))
    (answers : ∀ transform statement, transformFor base spec request = .ok transform →
      Query.compose (queryPlan base spec) request none (sourceBox request transform) = .ok statement →
      asking.Answers (base.endpoint.command statement.toSql) (statement.answer intersects rows)) :
    ∃ features, collected (stream base (some spec) .all) loading = .ok features ∧
      collected (replay base (some spec) features request) asking = collected (stream base (some spec) request) asking ∧
      (∀ e, collected (stream base (some spec) request) asking = .error e →
        transformFor base spec request = .error e ∨
          Query.outputFields base.fields base.primaryKey request = .error e) ∧
      (Query.Splits base.source.fromClause (Query.sourceParts base.source) →
        (∀ text ∈ base.subsetFilter, Query.Splits (Query.Filter.subset text).text (Query.Filter.subset text).parts) →
        ∀ asked box statement, Query.compose (queryPlan base spec) asked none box = .ok statement →
          Query.Splits statement.toSql statement.parts) := by
  have each : ∀ row ∈ rows, ∃ feature, row.LoadsAs (queryPlan base spec) feature := by
    intro row member
    obtain ⟨feature, decoded⟩ := decodes row member
    obtain ⟨n, number⟩ := numbered row member
    exact ⟨feature, loadsAs_of_decode keyed composed number decoded⟩
  choose! load loads using each
  have agrees : ∀ row ∈ rows, ∀ box,
      intersects spec box row.payload = (load row).geometry.any (·.meetsRect box.toRect) :=
    fun row member box => meets row member _ box (loads row member).geometry
  refine ⟨rows.map load, stream_all keyed loads agrees composed loaded, ?_⟩
  rw [replay_collected, stream_collected plain asking (·.answer intersects rows) answers]
  cases transformFor base spec request with
  | error e =>
    refine ⟨rfl, fun e' stopped => .inl ?_, compose_splits⟩
    cases stopped
    rfl
  | ok transform =>
    have composes : Query.compose (queryPlan base spec) request none (sourceBox request transform) =
        (Query.outputFields base.fields base.primaryKey request).map
          (Query.statementOf (queryPlan base spec) request none (sourceBox request transform)) :=
      Query.compose_total keyed request none (sourceBox request transform)
    dsimp only [Bind.bind, Except.bind]
    rw [composes, selectionFor_eq]
    cases outputs : Query.outputFields base.fields base.primaryKey request with
    | error e =>
      refine ⟨rfl, fun e' stopped => .inr ?_, compose_splits⟩
      cases stopped
      rfl
    | ok output =>
      have same := features_answer keyed loads agrees transform outputs
      exact ⟨congrArg Except.ok same.symm, nofun, compose_splits⟩

def harbours : List SourceRow :=
  let row (number : Int) (c : Coord) : SourceRow :=
    ⟨fun name => if name = "ID" then .int number else .text name, .binary (Wkb.writePoint c), .int number⟩
  [row 1 ⟨.ofInt 1, .ofInt 1⟩, row 2 ⟨.ofInt 1, .ofInt 1⟩, row 3 ⟨.ofInt 5, .ofInt 5⟩]

def harbourPlace : GeometryColumn := ⟨"G", .geometry, some .point, some 4326⟩

def harbourBase : ScanBase where
  endpoint := ⟨"c", .unset⟩
  source := .table none "HARBOUR"
  fields := [.ofTypeName "ID" "NUMBER", .ofTypeName "NAME" "TEXT"]
  primaryKey := some 0
  subsetFilter := none
  sampleLimit := none
  batchSize := 2
  transforms := [.affine 4326 1 (.ofInt 2) (.ofInt 0) (.ofInt 0)]

def harbourRequest : Request :=
  ⟨some ⟨.ofInt 0, .ofInt 0, .ofInt 4, .ofInt 4⟩, none, some [1, 3], some ["NAME", "NAME"], false, some 1⟩

def answering (rows : List Row) : Session := .start fun _ _ => .rows [] rows fun _ => .none

theorem answering_answers (rows : List Row) (command : Warehouse.Command) : (answering rows).Answers command rows :=
  fun _ => ⟨[], fun _ => .none, fun _ => rfl, rfl⟩

def meetsBox (spec : GeometryColumn) (box : BoundingBox) (payload : Value) : Bool :=
  match Decode.RowDecoder.readPayload spec.encoding payload with
  | .ok geometry => geometry.any (·.meetsRect box.toRect)
  | .error _ => false

theorem replay_of_harbours_agrees_with_stream :
    let plan := queryPlan harbourBase harbourPlace
    let whole := Query.statementOf plan .all none none [0, 1]
    let asked := Query.statementOf plan harbourRequest none (some ⟨.ofInt 0, .ofInt 0, .ofInt 2, .ofInt 2⟩) [1, 0]
    let asking := answering (asked.answer meetsBox harbours)
    ∃ features, collected (stream harbourBase (some harbourPlace) .all) (answering (whole.answer meetsBox harbours)) =
      .ok features ∧
      collected (replay harbourBase (some harbourPlace) features harbourRequest) asking =
        collected (stream harbourBase (some harbourPlace) harbourRequest) asking ∧
      (collected (stream harbourBase (some harbourPlace) harbourRequest) asking).toOption.map (·.map (·.id)) =
        some [1] ∧
      Query.Splits asked.toSql asked.parts := by
  intro plan whole asked asking
  have keyed : ∀ key, harbourBase.primaryKey = some key → key < harbourBase.fields.length := by decide
  have composed : Query.compose plan .all none none = .ok whole := by
    rw [Query.compose_total keyed]
    rfl
  have moves : transformFor harbourBase harbourPlace harbourRequest = .ok harbourBase.transforms.head? := rfl
  have states : Query.compose plan harbourRequest none (sourceBox harbourRequest harbourBase.transforms.head?) =
      .ok asked := by
    have outputs : Query.outputFields plan.fields plan.primaryKey harbourRequest = .ok [1, 0] := rfl
    have box : sourceBox harbourRequest harbourBase.transforms.head? =
        some ⟨.ofInt 0, .ofInt 0, .ofInt 2, .ofInt 2⟩ := by decide +kernel
    rw [Query.compose_total keyed, outputs, box]
    rfl
  have decodes : ∀ row ∈ harbours, ∃ feature, (Decode.RowDecoder.of whole.layout harbourBase.fields
      harbourPlace.encoding none).decode (row.shown whole) 0 = .ok feature := by
    have each : ∀ row ∈ harbours, ((Decode.RowDecoder.of whole.layout harbourBase.fields harbourPlace.encoding
        none).decode (row.shown whole) 0).isOk := by decide +kernel
    intro row member
    have decoded := each row member
    cases outcome : (Decode.RowDecoder.of whole.layout harbourBase.fields harbourPlace.encoding none).decode
        (row.shown whole) 0 with
    | ok feature => exact ⟨feature, rfl⟩
    | error fault =>
      rw [outcome] at decoded
      cases decoded
  have numbered : ∀ row ∈ harbours, ∃ n, (row.shown whole).getD whole.layout.id .null = .int n := by
    have listed : ∀ row ∈ harbours, ∃ n ∈ [1, 2, 3], (row.shown whole).getD whole.layout.id .null = .int n := by
      decide +kernel
    intro row member
    obtain ⟨n, -, number⟩ := listed row member
    exact ⟨n, number⟩
  have meets : ∀ row ∈ harbours, ∀ geometry box, Decode.RowDecoder.readPayload harbourPlace.encoding row.payload =
      .ok geometry → meetsBox harbourPlace box row.payload = geometry.any (·.meetsRect box.toRect) := by
    intro row member geometry box read
    rw [meetsBox, read]
  have answers : ∀ transform statement, transformFor harbourBase harbourPlace harbourRequest = .ok transform →
      Query.compose plan harbourRequest none (sourceBox harbourRequest transform) = .ok statement →
      asking.Answers (harbourBase.endpoint.command statement.toSql) (statement.answer meetsBox harbours) := by
    intro transform statement moved stated
    cases moves.symm.trans moved
    cases states.symm.trans stated
    exact answering_answers _ _
  have yielded : (collected (stream harbourBase (some harbourPlace) harbourRequest) asking).toOption.map
      (·.map (·.id)) = some [1] := by decide +kernel
  obtain ⟨features, all, same, -, written⟩ := replay_agrees_with_stream harbourBase harbourPlace harbourRequest harbours meetsBox
    whole (answering (whole.answer meetsBox harbours)) asking keyed rfl composed decodes numbered meets
    (answering_answers _ _) answers
  exact ⟨features, all, same, yielded, written (Query.sourceParts_splits rfl) (by simp [harbourBase]) _ _ asked states⟩

end Scan

end FeatureLayers
