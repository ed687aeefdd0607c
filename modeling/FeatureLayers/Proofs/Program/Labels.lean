import FeatureLayers.Proofs.Decode.Layout
import FeatureLayers.Proofs.Json.Sorted
import FeatureLayers.Proofs.Program.Scanning
import FeatureLayers.Proofs.Query.Labels

namespace FeatureLayers

open Decode (RowDecoder)
open Query (Slot labelled? namesOf outputOf)

theorem Value.toJson_sorted (v : Value) : v.toJson.sorted = v.toJson := by
  cases v with
  | binary bytes =>
    have items : ∀ bytes : List UInt8, Json.sortedItems (bytes.map fun b => .int b.toNat) = bytes.map fun b => .int b.toNat := by
      intro bytes
      induction bytes with
      | nil => rfl
      | cons b bytes ih =>
        rw [List.map_cons, Json.sortedItems, ih]
        rfl
    rw [toJson, Json.sorted, items]
  | null | bool | int | double | dateTime | date | time | text => rfl

/-- The line that is printed for a row: the members of its attributes, and the values that were decoded for the fields. -/
structure LineOf (fields : List Field) (selected : List Slot) (output : List Nat) (row : Row) (line : String)
    (attributes : List (String × Json)) (value : Nat → Value) : Prop where
  text : ∃ geometry id, line =
    (Json.object [("attributes", .object attributes), ("geometry", geometry), ("id", id)]).compact
  decoded : ∀ field ∈ output,
    (RowDecoder.converterOf fields field).convert ((Slot.field field).cellIn selected row) = .ok (value field)

theorem line_sorted (id geometry attributes : Json) :
    (Json.object [("id", id), ("geometry", geometry), ("attributes", attributes)]).sorted =
      .object [("attributes", attributes.sorted), ("geometry", geometry.sorted), ("id", id.sorted)] := by
  have second (a b : Json) : Entries.put "geometry" b [("id", a)] = [("geometry", b), ("id", a)] := by
    refine Entries.put_first fun entry member => ?_
    obtain rfl := List.mem_singleton.mp member
    show "geometry" < "id"
    decide
  have third (a b c : Json) : Entries.put "attributes" c [("geometry", b), ("id", a)] =
      [("attributes", c), ("geometry", b), ("id", a)] := by
    refine Entries.put_first fun entry member => ?_
    rcases List.mem_pair.mp member with rfl | rfl
    · show "attributes" < "geometry"
      decide
    · show "attributes" < "id"
      decide
  have first : Entries.put "id" id.sorted [] = [("id", id.sorted)] := rfl
  rw [Json.sorted, Json.sortedMembers, Json.sortedMembers, Json.sortedMembers, Json.sortedMembers, first, second, third]

theorem Feature.line_eq (names : List String) (f : Feature) : ∃ geometry id, f.line names =
    (Json.object [("attributes", .object (Json.sortedMembers [] (f.namedAttributes names))), ("geometry", geometry),
      ("id", id)]).compact :=
  ⟨_, _, congrArg Json.compact (line_sorted _ _ _)⟩

theorem lookup_map {α β : Type} (pairs : List (String × α)) (g : α → β) (name : String) :
    (pairs.map fun pair => (pair.1, g pair.2)).lookup name = (pairs.lookup name).map g := by
  induction pairs with
  | nil => rfl
  | cons pair pairs ih =>
    obtain ⟨first, a⟩ := pair
    rw [List.map_cons, List.lookup_cons, List.lookup_cons, ih]
    cases name == first <;> rfl

theorem Feature.mem_attributes {names : List String} {output : List Nat} {value : Nat → Value} {f : Feature}
    (valued : f.attributes = output.map value) {name : String} {json : Json} :
    (name, json) ∈ Json.sortedMembers [] (f.namedAttributes names) ↔
      ∃ field, labelled? names output name = some field ∧ json = (value field).toJson := by
  have named : f.namedAttributes names = (names.zip output).map fun pair => (pair.1, (value pair.2).toJson) := by
    rw [namedAttributes, valued, List.zip_map_right, List.map_map]
    rfl
  rw [Json.mem_sortedMembers, named, ← List.map_reverse, lookup_map _ fun field => (value field).toJson]
  simp only [Option.map_eq_some_iff, labelled?]
  constructor
  · rintro ⟨_, ⟨field, shown, rfl⟩, rfl⟩
    exact ⟨field, shown, Value.toJson_sorted _⟩
  · rintro ⟨field, shown, rfl⟩
    exact ⟨_, ⟨field, shown, rfl⟩, (Value.toJson_sorted _).symm⟩

theorem Decode.featureOf_attributes {cell : Slot → Value} {plan : Query.Plan} {noGeometry : Bool} {output : List Nat}
    {transform : Option Crs.Transform} {position : Nat} {f : Feature}
    (decoded : featureOf cell plan noGeometry output transform position = .ok f) :
    ∃ value : Nat → Value, f.attributes = output.map value ∧
      ∀ field ∈ output, (RowDecoder.converterOf plan.fields field).convert (cell (.field field)) = .ok (value field) := by
  unfold featureOf at decoded
  simp only [Bind.bind, Except.bind] at decoded
  cases shaped : geometryOfPayload plan noGeometry transform (cell .payload) with
  | error fault =>
    rw [shaped] at decoded
    cases decoded
  | ok geometry =>
    rw [shaped] at decoded
    dsimp only at decoded
    cases converted : output.mapM fun field =>
        (RowDecoder.converterOf plan.fields field).convert (cell (.field field)) with
    | error fault =>
      rw [converted] at decoded
      cases decoded
    | ok attributes =>
      rw [converted] at decoded
      cases decoded
      have each := mapM_eq_ok.mp converted
      refine ⟨fun field => ((RowDecoder.converterOf plan.fields field).convert (cell (.field field))).toOption.getD .null,
        ?_, fun field member => ?_⟩
      · have same := congrArg (List.map fun result : Except Fault Value => result.toOption.getD .null) each
        rw [List.map_map, List.map_map] at same
        exact (same.trans (List.map_id' attributes)).symm
      · have listed : (RowDecoder.converterOf plan.fields field).convert (cell (.field field)) ∈ attributes.map .ok :=
          each ▸ List.mem_map_of_mem member
        obtain ⟨v, -, same⟩ := List.mem_map.mp listed
        dsimp only
        rw [← same]
        rfl

theorem Layer.getFeatures_decodes {l : Layer} {request : Request} {session session' : Warehouse.Session} {begun : Scan}
    (unloaded : l.store.features = none) (keyed : ∀ key, l.base.primaryKey = some key → key < l.fields.length)
    (gets : (l.getFeatures request).run session = (.ok begun, session')) :
    Query.firstUnknown? l.fields request = none ∧ ∃ spec statement selected number rows,
      Query.Statement.Selects statement (Scan.queryPlan l.base spec) request
        (outputOf l.fields l.base.primaryKey request) selected ∧
      session'.Answered number (l.base.endpoint.command statement.toSql) rows ∧
      ∀ f ∈ begun.due, ∃ row ∈ rows, ∃ transform position,
        Decode.featureOf (Slot.cellIn selected row) (Scan.queryPlan l.base spec) request.noGeometry
          (outputOf l.fields l.base.primaryKey request) transform position = .ok f := by
  rcases getFeatures_ok gets with ⟨loaded, present, -⟩ | ⟨streaming, streams, same⟩
  · cases unloaded.symm.trans present
  obtain ⟨spec, transform, expression, statement, columns, rows, disturbance, number, -, -, -, composed, rfl, -,
    answered⟩ := Scan.stream_ok streams
  have due : begun.due = (RowDecoder.of statement.layout l.base.fields spec.encoding transform).features rows := by
    rw [same]
    split <;> rfl
  obtain ⟨known, -, selects, decodes⟩ := @Query.compose_selects (Scan.queryPlan l.base spec) keyed _ _ _ _ composed
  refine ⟨known, spec, statement, _, number, rows, selects, answered, fun f member => ?_⟩
  obtain ⟨row, answeredRow, position, decoded⟩ := RowDecoder.mem_features (due ▸ member)
  have wide := (RowDecoder.decode_eq_ok.mp decoded).1
  exact ⟨row, answeredRow, transform, position, (decodes row wide transform position).symm.trans decoded⟩

namespace Program

/-- No name is asked for twice, as far as the feature has fields for the names. -/
def NamesOnce (fields : List Field) (primaryKey : Option Nat) (request : Request) : Prop :=
  ((namesOf fields request).take (outputOf fields primaryKey request).length).Nodup

instance (fields : List Field) (primaryKey : Option Nat) (request : Request) :
    Decidable (NamesOnce fields primaryKey request) := inferInstanceAs (Decidable (List.Nodup _))

namespace Setting

/--
Every line that a scan prints is that of a row which the warehouse answered to the scan's statement, and shows values that
were decoded from the row. When no name was asked for twice, each stands under the name of its field; otherwise some
field's name stands before the value of another field in every line.
-/
theorem scan_labels_values_unless_names_repeat (s : Setting) (a : CommandLine.ScanArguments) {stage opened : Stage}
    {l : Layer} {request : Request} (opens : (s.openLayer a.source).run stage = (.ok l, opened))
    (asks : a.request = .ok request) (distinct : (l.fields.map (·.name)).Nodup) :
    let output := outputOf l.fields l.base.primaryKey request
    let final := ((s.scan a).run stage).2
    ∃ lines : List String, final.printed.toList = stage.printed.toList ++ lines ∧
      (lines ≠ [] → ∃ spec statement selected number rows,
        Query.Statement.Selects statement (Scan.queryPlan l.base spec) request output selected ∧
        final.session.Answered number (l.base.endpoint.command statement.toSql) rows ∧
        ∀ line ∈ lines, ∃ row ∈ rows, ∃ attributes value, LineOf l.fields selected output row line attributes value ∧
          (NamesOnce l.fields l.base.primaryKey request → ∀ name json, (name, json) ∈ attributes →
            ∃ field ∈ output, Query.fieldName l.fields field = name ∧ json = (value field).toJson) ∧
          (¬ NamesOnce l.fields l.base.primaryKey request →
            ∃ field < l.fields.length, ∃ other ∈ output, other ≠ field ∧
              (Query.fieldName l.fields field, (value other).toJson) ∈ attributes)) := by
  intro output final
  obtain ⟨features, printed, yielded⟩ := s.scan_prints opens asks
  refine ⟨_, printed, fun written => ?_⟩
  obtain ⟨begun, session, gets, first, onward⟩ := yielded fun none => written (congrArg (List.map _) none)
  obtain ⟨unloaded, keyed⟩ := s.openLayer_ok opens
  obtain ⟨known, spec, statement, selected, number, rows, selects, answered, decodes⟩ :=
    Layer.getFeatures_decodes unloaded keyed gets
  obtain ⟨named, more, fitted⟩ := Query.outputOf_names l.base.primaryKey distinct known
  refine ⟨spec, statement, selected, number, rows, selects, answered.later onward, fun line member => ?_⟩
  obtain ⟨f, inside, rfl⟩ := List.mem_map.mp member
  obtain ⟨row, answeredRow, transform, position, decoded⟩ := decodes f (first.subset inside)
  obtain ⟨value, valued, each⟩ := Decode.featureOf_attributes decoded
  refine ⟨row, answeredRow, _, value, ⟨f.line_eq _, each⟩, fun once name json shown => ?_, fun repeated => ?_⟩
  · obtain ⟨field, beside, rfl⟩ := (Feature.mem_attributes valued).mp shown
    obtain ⟨asked, own⟩ := Query.labelled?_own named fitted once beside
    exact ⟨field, asked, own, rfl⟩
  · obtain ⟨field, there, other, asked, differs, beside⟩ :=
      Query.labelled?_other named fitted (Query.outputOf_nodup _ _) repeated
    exact ⟨field, there, other, asked, differs, (Feature.mem_attributes valued).mpr ⟨other, beside, rfl⟩⟩

def skerryWarehouse : Nat → Warehouse.Reply
  | 0 | 2 => .rows [] [[.text "ID", .text "TEXT", .null], [.text "NAME", .text "TEXT", .null],
      [.text "SHAPE", .text "GEOGRAPHY", .null]] fun _ => .none
  | 1 => .rows [] [[.text "Point"]] fun _ => .none
  | 3 => .rows [] [[.int 1]] fun _ => .none
  | _ => .rows [] [[.text "Bonden", .text "7", .null, .null]] fun _ => .none

def skerries : Setting where
  connector := ⟨fun _ => .ok (), fun _ => .ok (), fun number _ => skerryWarehouse number⟩
  environment := []
  configuration := { Configuration.standard with connections := [("dev", [])] }

def scanOfSkerries (names : List String) : CommandLine.ScanArguments where
  source := ⟨none, some "dev", none, some "SKERRIES", none, none, some "ID", none⟩
  box := none
  filter := none
  ids := []
  fields := names
  noGeometry := false
  srid := none
  limit := none

def skerryStage : Stage := .start skerries.connector.answer

def skerryCourse (names : List String) : Option (List Field × Option Nat × List Value × List String) :=
  match (skerries.openLayer (scanOfSkerries names).source).run skerryStage with
  | (.error _, _) => none
  | (.ok l, opened) =>
    match (l.getFeatures { Request.all with attributes := some names }).run opened.session with
    | (.error _, _) => none
    | (.ok scan, session) =>
      match Run.fetchNext ⟨scan, session, l.store⟩ with
      | (.ok (some f), _) => some (l.fields, l.base.primaryKey, f.attributes,
          ((skerries.scan (scanOfSkerries names)).run skerryStage).2.printed.toList)
      | _ => none

def skerryFields : List Field := [⟨"ID", "TEXT", .text⟩, ⟨"NAME", "TEXT", .text⟩]

theorem skerryCourse_ok {names : List String} {fields : List Field} {key : Option Nat} {values : List Value}
    {printed : List String} (course : skerryCourse names = some (fields, key, values, printed)) :
    ∃ l opened scan session f next,
      (skerries.openLayer (scanOfSkerries names).source).run skerryStage = (.ok l, opened) ∧
      (l.getFeatures { Request.all with attributes := some names }).run opened.session = (.ok scan, session) ∧
      Run.fetchNext ⟨scan, session, l.store⟩ = (.ok (some f), next) ∧ l.fields = fields ∧ l.base.primaryKey = key ∧
      f.attributes = values ∧ ((skerries.scan (scanOfSkerries names)).run skerryStage).2.printed.toList = printed := by
  unfold skerryCourse at course
  split at course
  · cases course
  rename_i l opened opens
  split at course
  · cases course
  rename_i scan session gets
  split at course
  · rename_i f next fetched
    cases course
    exact ⟨l, opened, scan, session, f, next, opens, gets, fetched, rfl, rfl, rfl, rfl⟩
  · cases course

theorem name_of_skerry_is_shown :
    ∃ l opened lines, (skerries.openLayer (scanOfSkerries ["NAME"]).source).run skerryStage = (.ok l, opened) ∧
      (l.fields.map (·.name)).Nodup ∧
      ((skerries.scan (scanOfSkerries ["NAME"])).run skerryStage).2.printed.toList = lines ∧ lines.length = 1 ∧
      ∀ line ∈ lines, ∃ selected row attributes value, LineOf l.fields selected [1, 0] row line attributes value ∧
        ∀ name json, (name, json) ∈ attributes → ∃ field ∈ [1, 0],
          Query.fieldName l.fields field = name ∧ json = (value field).toJson := by
  have course : skerryCourse ["NAME"] = some (skerryFields, some 0, [.text "Bonden", .text "7"],
      ["\x7b\"attributes\":\x7b\"NAME\":\"Bonden\"\x7d,\"geometry\":null,\"id\":7\x7d"]) := by decide +kernel
  obtain ⟨l, opened, scan, session, f, next, opens, -, -, fields, key, -, printed⟩ := skerryCourse_ok course
  have distinct : (l.fields.map (·.name)).Nodup := by
    rw [fields]
    decide
  obtain ⟨lines, printed', labels⟩ := scan_labels_values_unless_names_repeat skerries (scanOfSkerries ["NAME"]) opens rfl
    distinct
  have same : lines = ["\x7b\"attributes\":\x7b\"NAME\":\"Bonden\"\x7d,\"geometry\":null,\"id\":7\x7d"] :=
    printed'.symm.trans printed
  obtain ⟨spec, statement, selected, number, rows, -, -, each⟩ := labels (by rw [same]; exact nofun)
  refine ⟨l, opened, lines, opens, distinct, printed', by rw [same]; rfl, fun line member => ?_⟩
  obtain ⟨row, -, attributes, value, shown, once, -⟩ := each line member
  rw [fields, key] at shown once
  rw [fields]
  exact ⟨selected, row, attributes, value, shown, once (by decide)⟩

theorem name_asked_for_twice_shows_key :
    ¬ ∀ (s : Setting) (a : CommandLine.ScanArguments) (stage opened : Stage) (l : Layer) (request : Request)
      (scan : Scan) (session : Warehouse.Session) (f : Feature) (next : Run),
      (s.openLayer a.source).run stage = (.ok l, opened) → a.request = .ok request → (l.fields.map (·.name)).Nodup →
      (l.getFeatures request).run opened.session = (.ok scan, session) →
      Run.fetchNext ⟨scan, session, l.store⟩ = (.ok (some f), next) →
      ∀ name json, (name, json) ∈ Json.sortedMembers [] (f.namedAttributes (namesOf l.fields request)) →
      ∀ place field : Nat, (outputOf l.fields l.base.primaryKey request)[place]? = some field →
        Query.fieldName l.fields field = name → (f.attributes[place]?).map Value.toJson = some json := by
  intro always
  have course : skerryCourse ["NAME", "NAME"] = some (skerryFields, some 0, [.text "Bonden", .text "7"],
      ["\x7b\"attributes\":\x7b\"NAME\":\"7\"\x7d,\"geometry\":null,\"id\":7\x7d"]) := by decide +kernel
  obtain ⟨l, opened, scan, session, f, next, opens, gets, fetched, fields, key, values, -⟩ := skerryCourse_ok course
  have own := always skerries (scanOfSkerries ["NAME", "NAME"]) skerryStage opened l _ scan session f next opens rfl
    (by rw [fields]; decide) gets fetched "NAME" (.string "7")
  rw [fields, key, values] at own
  let value : Nat → Value := fun field => if field = 1 then .text "Bonden" else .text "7"
  have valued : f.attributes = [1, 0].map value := values
  have shown : ("NAME", Json.string "7") ∈ Json.sortedMembers [] (f.namedAttributes ["NAME", "NAME"]) :=
    (Feature.mem_attributes valued).mpr ⟨0, rfl, rfl⟩
  have equal : some (Json.string "Bonden") = some (.string "7") := own shown 0 1 (by decide) (by decide)
  exact absurd (Json.string.inj (Option.some.inj equal)) (by decide)

end Setting

end Program

end FeatureLayers
