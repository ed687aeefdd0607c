import FeatureLayers.Proofs.Layer.Loading
import FeatureLayers.Proofs.Layer.Statistics
import FeatureLayers.Proofs.Scan.Agreement

namespace FeatureLayers

open Warehouse (Session)

/-- What a source holds: its rows, and which of them meet a condition, going by its text. -/
structure Contents where
  rows : List SourceRow
  meets : String → SourceRow → Bool

namespace Contents

variable (contents : Contents)

def meeting (conditions : List String) : List SourceRow :=
  contents.rows.filter fun row => conditions.all (contents.meets · row)

theorem meeting_cons (condition : String) (conditions : List String) :
    contents.meeting (condition :: conditions) = (contents.meeting conditions).filter (contents.meets condition) := by
  unfold meeting
  rw [List.filter_filter]
  rfl

end Contents

namespace Query

def Statement.conditions (statement : Statement) : List String :=
  statement.guard :: statement.filters.map Filter.text

def countingText (source : Source) (conditions : List String) : String :=
  "SELECT COUNT(*) FROM " ++
    (source.fromClause ++ if conditions.isEmpty then "" else " WHERE " ++ " AND ".intercalate conditions)

end Query

theorem Request.eq_of_isUnfiltered {request : Request} (unfiltered : request.isUnfiltered = true) :
    request = { Request.all with destinationSrid := request.destinationSrid } := by
  obtain ⟨rect, expression, ids, attributes, noGeometry, srid⟩ := request
  simp only [isUnfiltered, Bool.and_eq_true, Option.isNone_iff_eq_none, Bool.not_eq_true'] at unfiltered
  obtain ⟨⟨⟨⟨rfl, rfl⟩, rfl⟩, rfl⟩, rfl⟩ := unfiltered
  rfl

theorem Warehouse.Session.Answers.later {s s' : Session} {command : Warehouse.Command} {rows : List Row}
    (answers : s.Answers command rows) (precedes : s.Precedes s') : s'.Answers command rows := by
  unfold Answers
  rw [precedes.answer]
  exact answers

namespace Layer

variable {l : Layer} {spec : GeometryColumn} {since s : Session}

theorem queryAll_answered {endpoint : Warehouse.Endpoint} {sql : String} {rows : List Row}
    (answers : s.Answers (endpoint.command sql) rows) :
    ∃ s', (queryAll endpoint sql).run s = (.ok rows, s') ∧ s.Precedes s' := by
  obtain ⟨columns, disturbance, fine, reply⟩ := answers s.log.size
  have ran := queryAll_run endpoint sql s
  rw [reply, Warehouse.Reply.outcome, fine 0] at ran
  exact ⟨_, ran, (Warehouse.Action.precedes_frame.rows endpoint sql).outcome ran⟩

def subsetConditions (l : Layer) : List String := (l.base.subsetFilter.map fun filter => "(" ++ filter ++ ")").toList

theorem countText_eq (l : Layer) :
    l.countText = Query.countingText l.base.source (l.countGuards ++ l.subsetConditions) := rfl

def scanned (l : Layer) (request : Request) (s : Session) : Except Error (List Feature) :=
  match (l.getFeatures request).run s with
  | (.error e, _) => .error e
  | (.ok scan, s) => (Run.collectRemaining ⟨scan, s, l.store⟩).1

/--
The warehouse goes by these contents: it counts the rows that meet the conditions of the statement for the count, and
shows those that meet the conditions of the statement for all of the layer, each of which decodes.
-/
structure Reflects (l : Layer) (spec : GeometryColumn) (contents : Contents) (s : Session) : Prop where
  counts : s.Answers (l.base.endpoint.command (Query.countingText l.base.source (l.countGuards ++ l.subsetConditions)))
    [[.int (contents.meeting (l.countGuards ++ l.subsetConditions)).length]]
  shows : ∀ statement, Query.compose (Scan.queryPlan l.base spec) .all none none = .ok statement →
    s.Answers (l.base.endpoint.command statement.toSql) ((contents.meeting statement.conditions).map (·.shown statement))
  decodes : ∀ statement, Query.compose (Scan.queryPlan l.base spec) .all none none = .ok statement →
    ∀ row ∈ contents.meeting statement.conditions, ∃ feature,
      (Decode.RowDecoder.of statement.layout l.base.fields spec.encoding none).decode (row.shown statement) 0 =
        .ok feature

theorem featureCount_unloaded {count : Nat} (unloaded : l.store.features = none) (remembers : l.Remembers since s)
    (answers : s.Answers (l.base.endpoint.command l.countText) [[.int count]]) :
    ∃ s', l.featureCount.run s = (.ok (count, { l with countCache := some count }), s') ∧ s.Precedes s' := by
  have counted : firstCount [[.int count]] = count := rfl
  unfold featureCount
  rw [wholeInMemory?_unloaded unloaded]
  cases cached : l.countCache with
  | some known =>
    -- What is remembered was the answer to this statement, and the warehouse still answers it alike.
    obtain ⟨rows, ⟨number, -, -, columns, disturbance, reply⟩, same⟩ := remembers.count known cached
    obtain ⟨columns', disturbance', -, reply'⟩ := answers number
    cases reply.symm.trans reply'
    obtain rfl : known = count := same.trans counted
    have restored : { l with countCache := some known } = l := by rw [← cached]
    refine ⟨s, ?_, .refl s⟩
    rw [restored]
    rfl
  | none =>
    obtain ⟨s', asked, precedes⟩ := queryAll_answered answers
    refine ⟨s', ?_, precedes⟩
    have counts : (countRows l.base.endpoint (l.fromClause ++ l.whereText l.countGuards)).run s = (.ok count, s') := by
      unfold countRows
      rw [Warehouse.Action.run_bind]
      have same : l.countText = "SELECT COUNT(*) FROM " ++ (l.fromClause ++ l.whereText l.countGuards) := rfl
      rw [← same, asked]
      rfl
    dsimp only
    rw [Warehouse.Action.run_bind, counts]
    rfl

theorem featureCount_loaded {features : List Feature} (unlimited : l.isLimited = false)
    (loaded : l.store.features = some features) (s : Session) :
    l.featureCount.run s = (.ok (features.length, l), s) := by
  have present : l.wholeInMemory? = some features := by
    unfold wholeInMemory?
    rw [unlimited, loaded]
    rfl
  unfold featureCount
  rw [present]
  rfl

theorem getFeatures_collects {request : Request} {transform : Option Crs.Transform} {statement : Query.Statement}
    {rows : List Row} (column : l.spec = some spec) (unloaded : l.store.features = none)
    (plain : request.expression = none) (moves : Scan.transformFor l.base spec request = .ok transform)
    (composed : Query.compose (Scan.queryPlan l.base spec) request none (Scan.sourceBox request transform) =
      .ok statement)
    (answers : s.Answers (l.base.endpoint.command statement.toSql) rows) :
    let features := (Decode.RowDecoder.of statement.layout l.base.fields spec.encoding transform).features rows
    ∃ scan s' last, (l.getFeatures request).run s = (.ok scan, s') ∧ scan.transform = transform ∧
      Run.collectRemaining ⟨scan, s', l.store⟩ = (.ok features, last) ∧
      last.store = l.store.offered (if l.isWhole request scan then some l.store.generation else none) features := by
  intro features
  obtain ⟨columns, disturbance, s', fine, started⟩ := Scan.stream_starts plain moves composed answers
  let opened := Scan.begun l.base spec statement (.of statement.layout l.base.fields spec.encoding transform) transform
    (.ofReply columns rows disturbance)
  let publication := if l.isWhole request opened then some l.store.generation else none
  have opens : (l.getFeatures request).run s = (.ok { opened with publication }, s') := by
    unfold getFeatures
    rw [plain, unloaded]
    dsimp only
    rw [column, Warehouse.Action.run_bind, started]
    unfold publication
    dsimp only
    split <;> rfl
  obtain ⟨last, collected, stored⟩ := Run.begun_collects l.base spec statement
    (.of statement.layout l.base.fields spec.encoding transform) transform columns rows disturbance fine publication s'
    l.store
  exact ⟨_, s', last, opens, rfl, collected, stored⟩

theorem scanned_loaded {request : Request} {transform : Option Crs.Transform} {features : List Feature}
    (column : l.spec = some spec) (loaded : l.store.features = some features) (unfiltered : request.isUnfiltered = true)
    (moves : Scan.transformFor l.base spec request = .ok transform) (s : Session) :
    (l.scanned request s).map List.length = .ok features.length := by
  let everything : Selection := ⟨none, none, none, false⟩
  have same := Request.eq_of_isUnfiltered unfiltered
  have selects : Scan.selectionFor l.base request transform = .ok everything := by
    rw [same]
    rfl
  have opens : l.getFeatures request = Scan.replay l.base (some spec) features request := by
    unfold getFeatures
    rw [same, loaded, column]
    rfl
  unfold scanned
  rw [opens, Scan.replay_run, moves]
  dsimp only
  rw [selects]
  dsimp only
  rw [Run.replay_collects rfl rfl rfl]
  -- Nothing was asked for in particular, so everything is admitted, and its shape is a change of system at most.
  have all : features.filter everything.admits = features := List.filter_true features
  rw [all]
  exact congrArg Except.ok (List.length_map _)

section Loading

variable {contents : Contents}

theorem conditions_of_all {statement : Query.Statement}
    (composed : Query.compose (Scan.queryPlan l.base spec) .all none none = .ok statement) :
    statement.conditions = Query.guardText spec :: l.subsetConditions := by
  obtain rfl := Except.ok.inj (composed.symm.trans (Scan.compose_all l.base spec))
  have filters : (Query.statementOf (Scan.queryPlan l.base spec) .all none none
      (List.range l.base.fields.length)).filters = (l.base.subsetFilter.map Query.Filter.subset).toList := by
    rw [Query.statementOf, Query.stated_filters]
    exact List.append_nil _
  unfold Query.Statement.conditions subsetConditions
  rw [filters]
  cases l.base.subsetFilter <;> rfl

theorem Reflects.features_length (reflects : l.Reflects spec contents s) {statement : Query.Statement}
    (composed : Query.compose (Scan.queryPlan l.base spec) .all none none = .ok statement)
    (transform : Option Crs.Transform) :
    ((Decode.RowDecoder.of statement.layout l.base.fields spec.encoding transform).features
      ((contents.meeting statement.conditions).map (·.shown statement))).length =
        (contents.meeting (Query.guardText spec :: l.subsetConditions)).length := by
  rw [Decode.RowDecoder.features_length, List.length_map, conditions_of_all composed]
  intro row member position
  obtain ⟨source, met, rfl⟩ := List.mem_map.mp member
  obtain ⟨feature, decoded⟩ := reflects.decodes statement composed source met
  exact Decode.RowDecoder.decodes_moved decoded transform position

theorem Reflects.later (reflects : l.Reflects spec contents s) {s' : Session} (precedes : s.Precedes s') :
    l.Reflects spec contents s' where
  counts := reflects.counts.later precedes
  shows statement composed := (reflects.shows statement composed).later precedes
  decodes := reflects.decodes

theorem Reflects.scanned (reflects : l.Reflects spec contents s) (column : l.spec = some spec)
    (unloaded : l.store.features = none) {request : Request} {transform : Option Crs.Transform}
    (unfiltered : request.isUnfiltered = true) (moves : Scan.transformFor l.base spec request = .ok transform) :
    (l.scanned request s).map List.length =
      .ok (contents.meeting (Query.guardText spec :: l.subsetConditions)).length := by
  have same := Request.eq_of_isUnfiltered unfiltered
  have all := Scan.compose_all l.base spec
  -- The system that geometries are moved to is no part of the statement.
  have asks : Query.compose (Scan.queryPlan l.base spec) request none (Scan.sourceBox request transform) =
      Query.compose (Scan.queryPlan l.base spec) .all none none := by
    rw [same]
    rfl
  have plain : request.expression = none := by
    rw [same]
    rfl
  obtain ⟨scan, s', last, opens, -, collected, -⟩ :=
    getFeatures_collects column unloaded plain moves (asks.trans all) (reflects.shows _ all)
  unfold Layer.scanned
  rw [opens]
  dsimp only
  rw [collected]
  exact congrArg Except.ok (reflects.features_length all transform)

theorem Reflects.loads (reflects : l.Reflects spec contents s) (column : l.spec = some spec)
    (unlimited : l.isLimited = false) (unloaded : l.store.features = none) :
    ∃ features store s', l.loadAll.run s = (.ok (features.length, { l with store }), s') ∧
      store.features = some features ∧
      features.length = (contents.meeting (Query.guardText spec :: l.subsetConditions)).length := by
  have all := Scan.compose_all l.base spec
  obtain ⟨scan, s', last, opens, unmoved, collected, stored⟩ := getFeatures_collects column unloaded rfl
    (Scan.transformFor_all l.base spec) all (reflects.shows _ all)
  have whole : l.isWhole .all scan = true := by
    simp [isWhole, Request.isUnfiltered, Request.all, Scan.reprojects, unmoved, unlimited]
  rw [whole] at stored
  refine ⟨_, last.close.store, last.close.session, ?_, ?_, reflects.features_length all none⟩
  · rw [loadAll_run unloaded, opens]
    dsimp only
    rw [collected]
    rfl
  · rw [Run.close_store, stored]
    simp [Store.offered, Store.publish]

theorem Reflects.course (reflects : l.Reflects spec contents s) (column : l.spec = some spec)
    (unlimited : l.isLimited = false) (unloaded : l.store.features = none) (remembers : l.Remembers since s) :
    ∃ features counted whole s₁ s₂,
      l.featureCount.run s = (.ok ((contents.meeting (l.countGuards ++ l.subsetConditions)).length, counted), s₁) ∧
      counted.loadAll.run s₁ = (.ok (features.length, whole), s₂) ∧
      (∀ s₃, whole.featureCount.run s₃ = (.ok (features.length, whole), s₃)) ∧
      whole.base = l.base ∧ whole.spec = l.spec ∧ whole.store.features = some features ∧
      features.length = (contents.meeting (Query.guardText spec :: l.subsetConditions)).length := by
  have answers := reflects.counts
  rw [← countText_eq] at answers
  obtain ⟨s₁, counts, precedes⟩ := featureCount_unloaded unloaded remembers answers
  let counted : Layer :=
    { l with countCache := some (contents.meeting (l.countGuards ++ l.subsetConditions)).length }
  have kept : counted.Reflects spec contents s₁ := { reflects.later precedes with }
  obtain ⟨features, store, s₂, loads, loaded, length⟩ := kept.loads column unlimited unloaded
  let whole : Layer := { counted with store }
  have recounts : ∀ s₃, whole.featureCount.run s₃ = (.ok (features.length, whole), s₃) :=
    featureCount_loaded unlimited loaded
  exact ⟨features, counted, whole, s₁, s₂, counts, loads, recounts, rfl, rfl, loaded, length⟩

theorem meeting_counted (column : l.spec = some spec) :
    contents.meeting (l.countGuards ++ l.subsetConditions) =
      if spec.encoding = .cellId then contents.meeting (Query.guardText spec :: l.subsetConditions)
      else contents.meeting l.subsetConditions := by
  unfold countGuards
  rw [column]
  dsimp only
  split <;> rfl

/--
Loading takes off the count the rows that meet the subset filter and not the guard. The count of cells, for which the guard
is part of the statement, stays what it was; any other stays what it was exactly when every row that meets the filter meets
the guard as well. A count of a loaded layer is the number of features that an unfiltered scan yields, before or after.
-/
theorem loading_drops_unguarded_rows_from_count (l : Layer) (spec : GeometryColumn) (contents : Contents)
    (since s : Session) (column : l.spec = some spec) (unlimited : l.isLimited = false)
    (unloaded : l.store.features = none) (remembers : l.Remembers since s) (reflects : l.Reflects spec contents s) :
    let wanted := contents.meeting l.subsetConditions
    let guarded := wanted.filter (contents.meets (Query.guardText spec))
    ∃ before after counted whole s₁ s₂, l.featureCount.run s = (.ok (before, counted), s₁) ∧
      counted.loadAll.run s₁ = (.ok (after, whole), s₂) ∧
      (∀ s₃, whole.featureCount.run s₃ = (.ok (after, whole), s₃)) ∧
      (∀ request transform, request.isUnfiltered = true → Scan.transformFor l.base spec request = .ok transform →
        (l.scanned request s).map List.length = .ok after ∧ (whole.scanned request s₂).map List.length = .ok after) ∧
      before = (if spec.encoding = .cellId then guarded else wanted).length ∧ after = guarded.length ∧
      (before = after ↔ spec.encoding = .cellId ∨ ∀ row ∈ wanted, contents.meets (Query.guardText spec) row = true) := by
  intro wanted guarded
  have both : contents.meeting (Query.guardText spec :: l.subsetConditions) = guarded := contents.meeting_cons _ _
  obtain ⟨features, counted, whole, s₁, s₂, counts, loads, recounts, base, spatial, loaded, length⟩ :=
    reflects.course column unlimited unloaded remembers
  rw [meeting_counted column, both] at counts
  rw [both] at length
  refine ⟨_, _, counted, whole, s₁, s₂, counts, loads, recounts, fun request transform unfiltered moves => ⟨?_, ?_⟩, rfl,
    length, ?_⟩
  · rw [reflects.scanned column unloaded unfiltered moves, both, length]
  · rw [← base] at moves
    exact scanned_loaded (spatial.trans column) loaded unfiltered moves s₂
  · rw [length]
    split
    · rename_i cell
      exact ⟨fun _ => .inl cell, fun _ => rfl⟩
    · -- Without the guard in the statement, the counts agree when the filter by the guard drops no row.
      rename_i other
      constructor
      · intro same
        exact .inr (List.length_filter_eq_length_iff.mp same.symm)
      · rintro (cell | all)
        · exact absurd cell other
        · exact (List.length_filter_eq_length_iff.mpr all).symm

end Loading

def berthPlace : GeometryColumn := ⟨"PLACE", .geometry, some .point, some 4326⟩

def berths : Layer where
  descriptor := .ofSource "c" (.table none "BERTHS")
  settings := .standard
  base := ⟨⟨"c", .unset⟩, .table none "BERTHS", [.ofTypeName "ID" "NUMBER"], some 0, some "FREE", none, 2, []⟩
  spec := some berthPlace
  sampling := none
  store := .empty
  countCache := none
  extentCache := none

def berthContents : Contents where
  rows :=
    let place : Value := .binary (Wkb.writePoint ⟨.ofInt 1, .ofInt 1⟩)
    let row (number : Int) (isFree : Bool) (payload : Value) : SourceRow :=
      ⟨fun name => if name = "ID" then .int number else .bool isFree, payload, .int number⟩
    [row 1 true place, row 2 true .null, row 3 false place]
  meets condition row := if condition = "(FREE)" then row.column "FREE" = .bool true else row.payload ≠ .null

def berthStatement : Query.Statement := Query.statementOf (Scan.queryPlan berths.base berthPlace) .all none none [0]

def berthSession : Session := .start fun _ command =>
  let rows := if command = berths.base.endpoint.command berths.countText then [[.int 2]]
    else (berthContents.meeting berthStatement.conditions).map (·.shown berthStatement)
  .rows [] rows fun _ => .none

theorem berths_reflect : berths.Reflects berthPlace berthContents berthSession := by
  have only : ∀ statement, Query.compose (Scan.queryPlan berths.base berthPlace) .all none none = .ok statement →
      statement = berthStatement :=
    fun statement composed => Except.ok.inj (composed.symm.trans (Scan.compose_all berths.base berthPlace))
  constructor
  · have two : (berthContents.meeting (berths.countGuards ++ berths.subsetConditions)).length = 2 := by decide +kernel
    rw [two, ← countText_eq]
    refine fun number => ⟨[], fun _ => .none, fun _ => rfl, ?_⟩
    simp only [berthSession, Session.start, if_pos]
    rfl
  · intro statement composed
    rw [only statement composed]
    have other : berths.base.endpoint.command berthStatement.toSql ≠
        berths.base.endpoint.command berths.countText := by
      decide +kernel
    refine fun number => ⟨[], fun _ => .none, fun _ => rfl, ?_⟩
    simp only [berthSession, Session.start, if_neg other]
  · intro statement composed row member
    rw [only statement composed] at member ⊢
    let decoder := Decode.RowDecoder.of berthStatement.layout berths.base.fields berthPlace.encoding none
    have each : ∀ row ∈ berthContents.meeting berthStatement.conditions,
        (decoder.decode (row.shown berthStatement) 0).isOk := by
      decide +kernel
    have decoded := each row member
    change ∃ feature, decoder.decode (row.shown berthStatement) 0 = .ok feature
    cases outcome : decoder.decode (row.shown berthStatement) 0 with
    | ok feature => exact ⟨feature, rfl⟩
    | error fault =>
      rw [outcome] at decoded
      cases decoded

/-- One of two free berths has no place, and is counted until the layer is loaded. -/
theorem loading_drops_unplaced_berth_from_count :
    ∃ counted whole s₁ s₂, berths.featureCount.run berthSession = (.ok (2, counted), s₁) ∧
      counted.loadAll.run s₁ = (.ok (1, whole), s₂) ∧ whole.featureCount.run s₂ = (.ok (1, whole), s₂) ∧
      (berths.scanned .all berthSession).map List.length = .ok 1 := by
  obtain ⟨before, after, counted, whole, s₁, s₂, counts, loads, recounts, scans, wanted, guarded, -⟩ :=
    loading_drops_unguarded_rows_from_count berths berthPlace berthContents berthSession berthSession rfl rfl rfl
      (.nothing rfl rfl) berths_reflect
  have two : before = 2 := wanted.trans (by decide +kernel)
  have one : after = 1 := guarded.trans (by decide +kernel)
  have scanned := (scans .all none rfl (Scan.transformFor_all _ _)).1
  rw [two] at counts
  rw [one] at loads recounts scanned
  exact ⟨counted, whole, s₁, s₂, counts, loads, recounts s₂, scanned⟩

theorem loading_changes_count_of_berths :
    ¬ ∀ (l : Layer) (spec : GeometryColumn) (contents : Contents) (since s s₁ s₂ s₃ : Session)
      (before loaded after : Nat) (counted whole again : Layer), l.spec = some spec → l.isLimited = false →
      l.base.sampleLimit = none → l.store.features = none → l.Remembers since s → l.Reflects spec contents s →
      l.featureCount.run s = (.ok (before, counted), s₁) → counted.loadAll.run s₁ = (.ok (loaded, whole), s₂) →
      whole.featureCount.run s₂ = (.ok (after, again), s₃) → before = after := by
  intro always
  have remembers : berths.Remembers berthSession berthSession := .nothing rfl rfl
  obtain ⟨features, counted, whole, s₁, s₂, counts, loads, recounts, -, -, -, length⟩ :=
    berths_reflect.course rfl rfl rfl remembers
  have same := always berths berthPlace berthContents berthSession berthSession s₁ s₂ s₂ _ _ _ counted whole whole rfl rfl
    rfl rfl remembers berths_reflect counts loads (recounts s₂)
  rw [length] at same
  exact absurd same (by decide +kernel)

end Layer

end FeatureLayers
