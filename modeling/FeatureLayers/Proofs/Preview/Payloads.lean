import FeatureLayers.Proofs.Decode.Rows
import FeatureLayers.Proofs.Preview.Course

namespace FeatureLayers

open Decode (RowDecoder)
open Decode.RowDecoder (readPayload)
open Warehouse (Disturbance ResultSet Session)

def Decode.RowDecoder.shape? (d : RowDecoder) (row : Row) (place : Nat) : Option Geometry :=
  (d.decode row place).toOption.bind (·.geometry)

namespace FeatureGroup

/-- The decoder takes its geometry from the last cell of the row, where it lies, and decodes the other cells. -/
structure ReadsLast (d : RowDecoder) (row : Row) : Prop where
  vector : d.encoding.isVector = true
  unmoved : d.transform = none
  last : ∃ front payload, row = front ++ [payload] ∧ d.layout.geometry = some front.length
  others : ∃ feature, d.decode (row.dropLast ++ [.null]) 0 = .ok feature

def decodedBy (d : RowDecoder) (rows : List Row) : List (Geometry × List Value) :=
  rows.zipIdx.filterMap fun (row, place) => (d.shape? row place).map (·, row.dropLast)

def merged (groups : List FeatureGroup) : List Feature :=
  (groups.flatMap (·.features.toList)).mergeSort (·.id ≤ ·.id)

def isText (row : Row) : Bool := (payloadOf row).asText?.isSome

section Payloads

variable {d : RowDecoder} {row : Row}

/-- Away from text the two readings of a payload agree. -/
theorem geometryOf?_eq_readPayload {encoding : Encoding} {payload : Value} (vector : encoding.isVector = true)
    (noText : payload.asText? = none) : geometryOf? payload = (readPayload encoding payload).toOption.join := by
  cases payload with
  | text _ => cases noText
  | binary bytes =>
    have read : readPayload encoding (.binary bytes) = (Decode.readWkb bytes).map some := by
      cases encoding with
      | cellId => cases vector
      | _ => rfl
    rw [read, geometryOf?, Decode.readWkb]
    cases Wkb.read bytes <;> rfl
  | _ =>
    cases encoding with
    | cellId => cases vector
    | _ => rfl

theorem geometryOf?_text {payload : Value} (text : payload.asText?.isSome) : geometryOf? payload = none := by
  cases payload with
  | binary bytes => cases text
  | _ => rfl

theorem shape?_eq (reads : ReadsLast d row) (place : Nat) :
    d.shape? row place = (readPayload d.encoding (payloadOf row)).toOption.join := by
  obtain ⟨-, unmoved, ⟨front, payload, rfl, last⟩, filled, others⟩ := reads
  rw [List.dropLast_concat, Decode.RowDecoder.decode_eq_ok] at others
  obtain ⟨wide, -, attributes, -, valued, -⟩ := others
  have width : d.layout.width ≤ (front ++ [payload]).length := by simpa using wide
  have blanked : d.attributeRow (front ++ [.null]) = d.attributeRow (front ++ [payload]) := by
    simp [RowDecoder.attributeRow, last]
  rw [blanked] at valued
  have shown : d.geometryOf (front ++ [payload]) = readPayload d.encoding payload := by
    unfold RowDecoder.geometryOf RowDecoder.moved
    rw [last, unmoved]
    simp
  have here : payloadOf (front ++ [payload]) = payload := by simp [payloadOf]
  rw [here, RowDecoder.shape?, ← shown]
  cases outcome : d.decode (front ++ [payload]) place with
  | ok feature =>
    obtain ⟨-, geometry, _, read, -, rfl⟩ := Decode.RowDecoder.decode_eq_ok.mp outcome
    rw [read]
    rfl
  | error fault =>
    cases read : d.geometryOf (front ++ [payload]) with
    | error _ => rfl
    | ok geometry =>
      -- The other cells have their values whatever the payload is, so that only the payload could have failed.
      have decoded : d.decode (front ++ [payload]) place = .ok ⟨_, geometry, attributes⟩ :=
        Decode.RowDecoder.decode_eq_ok.mpr ⟨width, geometry, attributes, read, valued, rfl⟩
      rw [outcome] at decoded
      cases decoded

end Payloads

section Rows

variable {d : RowDecoder} {rows : List Row}

theorem decoded?_eq_shape? {row : Row} (reads : ReadsLast d row) (noText : isText row = false) (place : Nat) :
    decoded? row = (d.shape? row place).map (·, row.dropLast) := by
  have plain : (payloadOf row).asText? = none := by simpa [isText] using noText
  rw [decoded?_eq, shape?_eq reads, geometryOf?_eq_readPayload reads.vector plain]

theorem decoded?_text {row : Row} (text : isText row = true) : decoded? row = none := by
  rw [decoded?_eq, geometryOf?_text text]
  rfl

theorem decodedBy_eq (reads : ∀ row ∈ rows, ReadsLast d row) (place : Nat) :
    decodedBy d rows = rows.filterMap fun row => (d.shape? row place).map (·, row.dropLast) := by
  have each : ∀ placed ∈ rows.zipIdx, (d.shape? placed.1 placed.2).map (·, placed.1.dropLast) =
      (d.shape? placed.1 place).map (·, placed.1.dropLast) := by
    intro placed member
    have read := reads placed.1 (List.fst_mem_of_mem_zipIdx member)
    rw [shape?_eq read, shape?_eq read]
  conv => rhs; rw [← List.zipIdx_map_fst 0 rows, List.filterMap_map]
  exact List.filterMap_congr each

theorem filterMap_decoded? (reads : ∀ row ∈ rows, ReadsLast d row) :
    rows.filterMap decoded? = decodedBy d (rows.filter (!isText ·)) := by
  rw [decodedBy_eq (fun row member => reads row (List.mem_of_mem_filter member)) 0, List.filterMap_filter]
  refine List.filterMap_congr fun row member => ?_
  cases text : isText row with
  | true => simp [decoded?_text text]
  | false => simp [decoded?_eq_shape? (reads row member) text 0]

theorem filterMap_filter_eq_iff {α β : Type} (keep : α → Bool) (f : α → Option β) (items : List α) :
    (items.filter keep).filterMap f = items.filterMap f ↔ ∀ item ∈ items, keep item = false → f item = none := by
  induction items with
  | nil => simp
  | cons first items ih =>
    have fewer := ((List.filter_sublist (p := keep) (l := items)).filterMap f).length_le
    cases kept : keep first with
    | true => cases found : f first <;> simp [kept, found, ih]
    | false =>
      cases found : f first with
      | none => simp [kept, found, ih]
      | some b =>
        -- What is made of the items that stay is no longer than what is made of all of them, so `b` is missing.
        have longer : (items.filter keep).filterMap f ≠ b :: items.filterMap f := by
          intro same
          rw [same, List.length_cons] at fewer
          omega
        simp [kept, found, longer]

theorem decodedBy_noText_iff (reads : ∀ row ∈ rows, ReadsLast d row) :
    decodedBy d (rows.filter (!isText ·)) = decodedBy d rows ↔
      ∀ row ∈ rows, isText row = true → ∀ place, d.shape? row place = none := by
  rw [decodedBy_eq (fun row member => reads row (List.mem_of_mem_filter member)) 0, decodedBy_eq reads 0,
    filterMap_filter_eq_iff]
  refine forall₂_congr fun row member => ?_
  have anywhere (place : Nat) : d.shape? row place = d.shape? row 0 := by
    rw [shape?_eq (reads row member), shape?_eq (reads row member)]
  simp [anywhere]

theorem zipIdx_numbered_inj {found found' : List (Geometry × List Value)} :
    found.zipIdx.map numbered = found'.zipIdx.map numbered ↔ found = found' := by
  have unnumbered (found : List (Geometry × List Value)) :
      (found.zipIdx.map numbered).filterMap (fun f => f.geometry.map (·, f.attributes)) = found := by
    rw [List.filterMap_map]
    conv => rhs; rw [← List.zipIdx_map_fst 0 found, ← List.filterMap_eq_map]
    rfl
  refine ⟨fun alike => ?_, fun alike => by rw [alike]⟩
  rw [← unnumbered found, alike, unnumbered]

end Rows

section Query

variable {endpoint : Warehouse.Endpoint} {query geometryColumn : String} {columns shown : List Column}
  {sample rows : List Row} {described disturbance : Nat → Disturbance} {s : Session} {d : RowDecoder}

/-- A collection that comes to an end has kept the rows that are decoded and whose payload is no text, with the
geometries that are decoded. These are all that are decoded exactly if the decoder finds no geometry in a text. -/
theorem collected_as_decoded (isKnown : columns.any (·.name = geometryColumn))
    (describes : s.answer s.log.size (endpoint.command
      ("SELECT * FROM " ++ (Source.query query).fromClause ++ " LIMIT 0")) = .rows columns sample described)
    (answers : s.answer (s.log.size + 1) (endpoint.command
      (statementText (Source.query query).fromClause columns geometryColumn)) = .rows shown rows disturbance)
    (reads : ∀ row ∈ rows, ReadsLast d row) :
    (∀ batchSize collection, ((ofQuery endpoint query geometryColumn batchSize).run s).1 = .ok collection →
      merged collection.groups = (decodedBy d (rows.filter (!isText ·))).zipIdx.map numbered ∧
      (merged collection.groups = (decodedBy d rows).zipIdx.map numbered ↔
        ∀ row ∈ rows, isText row = true → ∀ place, d.shape? row place = none)) ∧
    (s.cancel.raisedFrom = none → (∀ number, disturbance number = .none) →
      ∀ batchSize, ∃ collection, ((ofQuery endpoint query geometryColumn batchSize).run s).1 = .ok collection) := by
  have outcome (batchSize : Nat) := ofQuery_outcome batchSize isKnown describes answers
  have kept : merged (grouped (featuresOf rows)) = (decodedBy d (rows.filter (!isText ·))).zipIdx.map numbered := by
    rw [merged, mergeSort_grouped, featuresOf, filterMap_decoded? reads]
  constructor
  · intro batchSize collection collected
    have groups : collection.groups = grouped (featuresOf rows) := by
      rw [outcome] at collected
      cases interrupted : interruption? disturbance s.cancel (steps (max batchSize 1) rows) with
      | some e => rw [interrupted] at collected; cases collected
      | none => rw [interrupted] at collected; cases collected; rfl
    rw [groups, kept]
    exact ⟨rfl, zipIdx_numbered_inj.trans (decodedBy_noText_iff reads)⟩
  · intro never undisturbed batchSize
    rw [outcome, interruption?_none never undisturbed]
    exact ⟨_, rfl⟩

end Query

section Moorings

def buoy : Geometry := .point ⟨.zero, .zero⟩

def buoyDigits : String := "010100000000000000000000000000000000000000"

def moorings : List Row :=
  [[.text "Dover", .binary ([1, 1, 0, 0, 0] ++ List.replicate 16 0)], [.text "Calais", .null],
    [.text "Ostend", .text buoyDigits], [.text "Solent", .text "adrift"]]

def roadstead (rows : List Row) : Session where
  answer
    | 0, _ => .rows [⟨"NAME", .text, 0⟩, ⟨"PLACE", .geography, 1⟩] [] fun _ => .none
    | _, _ => .rows [] rows fun _ => .none
  log := #[]
  tracker := .start
  cancel := .lowered
  journal := #[]

def pilot : RowDecoder := ⟨⟨[(0, 0)], some 1, 0, 2⟩, [.passThrough], .geography, none⟩

theorem pilot_reads : ∀ row ∈ moorings, ReadsLast pilot row := by
  have reads (name : String) (payload : Value) : ReadsLast pilot [.text name, payload] :=
    ⟨rfl, rfl, ⟨[.text name], payload, rfl, rfl⟩, ⟨_, rfl⟩⟩
  simp [moorings, reads]

theorem moorings_collected :
    ∃ collection, ((ofQuery ⟨"lake", .unset⟩ "SELECT * FROM MOORINGS" "PLACE" 2).run (roadstead moorings)).1 =
        .ok collection ∧
      merged collection.groups = [⟨0, some buoy, [.text "Dover"]⟩] ∧
      merged collection.groups ≠ (decodedBy pilot moorings).zipIdx.map numbered := by
  obtain ⟨kept, ends⟩ := @collected_as_decoded ⟨"lake", .unset⟩ "SELECT * FROM MOORINGS" "PLACE"
    [⟨"NAME", .text, 0⟩, ⟨"PLACE", .geography, 1⟩] [] [] moorings _ _ (roadstead moorings) pilot (by decide) rfl rfl
    pilot_reads
  obtain ⟨collection, collected⟩ := ends rfl (fun _ => rfl) 2
  obtain ⟨same, all⟩ := kept 2 collection collected
  refine ⟨collection, collected, ?_, fun complete => ?_⟩
  · rw [same]
    rfl
  · have found : pilot.shape? [.text "Ostend", .text buoyDigits] 2 = some buoy := rfl
    have missed := all.mp complete [.text "Ostend", .text buoyDigits] (by decide) rfl 2
    rw [missed] at found
    cases found

theorem digits_are_passed_over :
    ReadsLast pilot [.text "Ostend", .text buoyDigits] ∧
    pilot.shape? [.text "Ostend", .text buoyDigits] 0 = some buoy ∧
    ∀ batchSize, ((ofQuery ⟨"lake", .unset⟩ "SELECT * FROM MOORINGS" "PLACE" batchSize).run
      (roadstead [[.text "Ostend", .text buoyDigits]])).1 = .ok ⟨[Field.ofColumn ⟨"NAME", .text, 0⟩], []⟩ := by
  refine ⟨pilot_reads _ (by decide), rfl, fun batchSize => ?_⟩
  rw [@ofQuery_outcome ⟨"lake", .unset⟩ "SELECT * FROM MOORINGS" "PLACE"
    [⟨"NAME", .text, 0⟩, ⟨"PLACE", .geography, 1⟩] [] [] [[.text "Ostend", .text buoyDigits]] _ _ _ batchSize
    (by decide) rfl rfl, interruption?_none rfl fun _ => rfl]
  rfl

end Moorings

end FeatureGroup

end FeatureLayers
