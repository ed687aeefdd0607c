import FeatureLayers.Document.Feature
import FeatureLayers.Proofs.Calendar.Written
import FeatureLayers.Proofs.Json.Numbers
import FeatureLayers.Proofs.Json.RoundTrip
import FeatureLayers.Proofs.Json.Scaling

namespace FeatureLayers

section Items

variable {α β : Type} {items : List α}

theorem mapM_eq_some_self_iff {read : α → Option α} : items.mapM read = some items ↔ ∀ a ∈ items, read a = some a := by
  induction items with
  | nil => exact iff_of_true rfl nofun
  | cons a items ih =>
    rw [List.mapM_cons, List.forall_mem_cons, ← ih]
    cases read a <;> cases items.mapM read <;> simp

theorem mapM_option_congr {f g : α → Option β} (same : ∀ a ∈ items, f a = g a) : items.mapM f = items.mapM g := by
  induction items with
  | nil => rfl
  | cons a items ih =>
    rw [List.forall_mem_cons] at same
    rw [List.mapM_cons, List.mapM_cons, same.1, ih same.2]

end Items

namespace Value

/-- The values that a document holds as they are: integers of 64 bits and finite doubles. -/
def Fits : Value → Prop
  | .int n => -Nat.pow 2 63 ≤ n ∧ n < Nat.pow 2 63
  | .double x => x.isFinite
  | _ => True

def reread? : Value → Option Value
  | .double x => x.reread?.map .double
  | .text s => some (ofText s)
  | v => some v

/-- No reader that is asked before takes the written text, and the digits of a double are scaled to the double. -/
def Returns : Value → Prop
  | .double x => x.reread? = some x
  | .text s => Calendar.documentDateTime? s.toList = none ∧ Calendar.documentDate? s.toList = none ∧
      Calendar.documentTime? s.toList = none
  | _ => True

theorem ofText_dateTime (d : DateTime) : ofText (String.ofList d.isoChars) = .dateTime d := by
  simp only [ofText, String.toList_ofList, Calendar.documentDateTime?_isoChars]

theorem ofText_date (d : Date) : ofText (String.ofList d.chars) = .date d := by
  simp only [ofText, String.toList_ofList, Calendar.documentDateTime?_dateChars, Calendar.documentDate?_chars]

theorem ofText_time (t : Time) : ofText (String.ofList t.chars) = .time t := by
  simp only [ofText, String.toList_ofList, Calendar.documentDateTime?_timeChars, Calendar.documentDate?_timeChars,
    Calendar.documentTime?_chars]

theorem ofText_eq_text_iff (s : String) : ofText s = .text s ↔ (Value.text s).Returns := by
  unfold ofText Returns
  dsimp only
  cases Calendar.documentDateTime? s.toList <;> cases Calendar.documentDate? s.toList <;>
    cases Calendar.documentTime? s.toList <;> simp

theorem ofNode?_node {v : Value} (fits : v.Fits) : ofNode? v.toJson.node = v.reread? := by
  cases v with
  | null => rfl
  | bool b => rfl
  | int n =>
    rw [toJson, Json.node, ofNode?, Json.Node.int64?_ofInt fits.1 fits.2]
    rfl
  | double x =>
    rw [toJson, Json.node, if_pos (show x.isFinite from fits), ofNode?, x.literal_int64?]
    rfl
  | dateTime d => exact congrArg some (ofText_dateTime d)
  | date d => exact congrArg some (ofText_date d)
  | time t => exact congrArg some (ofText_time t)
  | text s => rfl
  | binary bytes =>
    have read : (bytes.map fun b => Json.Node.number (.ofInt b.toNat)).mapM Json.Node.byte? = some bytes := by
      rw [List.mapM_map]
      exact mapM_eq_some_self_iff.mpr fun b _ => Json.Node.byte?_ofInt b
    have written : (binary bytes).toJson.node = .array (bytes.map fun b => Json.Node.number (.ofInt b.toNat)) := by
      rw [toJson, Json.node, Json.itemNodes_eq_map, List.map_map]
      rfl
    rw [written, ofNode?, read]
    rfl

theorem reread?_eq_some_iff (v : Value) : v.reread? = some v ↔ v.Returns := by
  cases v with
  | double x =>
    constructor
    · intro read
      obtain ⟨y, found, same⟩ := Option.map_eq_some_iff.mp read
      cases same
      exact found
    · intro returns
      exact congrArg (Option.map Value.double) returns
  | text s => exact (Option.some_inj).trans (ofText_eq_text_iff s)
  | _ => exact iff_of_true rfl trivial

end Value

namespace Json.Record

theorem ofNode?_object {names : List String} {members : List (String × Node)}
    (known : ∀ member ∈ members, names.contains member.1) (once : (members.map Prod.fst).Nodup) :
    ofNode? names (.object (members.map fun member => (some member.1, member.2))) = some ⟨true, members⟩ := by
  have kept : members.filter (fun member => names.contains member.1) = members := List.filter_eq_self.mpr known
  rw [ofNode?, List.mapM_map, mapM_eq_some_self_iff.mpr fun _ _ => by rfl]
  simp only [Option.bind_eq_bind, Option.bind_some, kept]
  rw [if_pos once]

end Json.Record

namespace Feature

open Json (Node Record)

def geometryTaken? : Option Geometry → Option (Option Geometry)
  | none => some none
  | some g => (Geometry.ofNode? 1 g.toJson.node).map some

theorem node_toJson (f : Feature) : f.toJson.node =
    .object ([("id", .number (.ofInt f.id)), ("geometry", (Json.orNull Geometry.toJson f.geometry).node),
      ("attributes", .array (f.attributes.map fun v => v.toJson.node))].map fun member => (some member.1, member.2)) := by
  simp [toJson, Json.node, Json.memberNodes, Json.itemNodes_eq_map]

/-- A written geometry is an object, so that it is never taken for a missing one. -/
theorem optional_geometry (record : Record) (geometry : Option Geometry)
    (found : record.find? "geometry" = some (Json.orNull Geometry.toJson geometry).node) :
    record.optional "geometry" (Geometry.ofNode? 1) = geometryTaken? geometry := by
  cases geometry with
  | none => simp [Record.optional, found, Json.orNull, Json.node, geometryTaken?]
  | some g =>
    obtain ⟨members, written⟩ : ∃ members, g.toJson = .object members := by
      cases g <;> exact ⟨_, by rw [Geometry.toJson]⟩
    simp [Record.optional, found, Json.orNull, Json.node, geometryTaken?, written]

theorem ofNode?_node {f : Feature} (least : -Nat.pow 2 63 ≤ f.id) (most : f.id < Nat.pow 2 63)
    (fits : ∀ v ∈ f.attributes, v.Fits) : ofNode? f.toJson.node =
      (geometryTaken? f.geometry).bind fun geometry =>
        (f.attributes.mapM Value.reread?).map fun attributes => ⟨f.id, geometry, attributes⟩ := by
  have attributes : Node.list? Value.ofNode? (.array (f.attributes.map fun v => v.toJson.node)) =
      f.attributes.mapM Value.reread? := by
    rw [Node.list?, List.mapM_map]
    exact mapM_option_congr fun v among => Value.ofNode?_node (fits v among)
  rw [ofNode?, node_toJson, Record.ofNode?_object (by simp) (by simp), Option.bind_eq_bind, Option.bind_some,
    optional_geometry _ f.geometry (by simp [Record.find?])]
  simp only [Record.required, Record.find?, List.find?, decide_true, Option.map_some, Option.bind_some,
    Node.int64?_ofInt least most]
  cases geometryTaken? f.geometry with
  | none => rfl
  | some geometry =>
    cases taken : f.attributes.mapM Value.reread? <;> simp [attributes, taken]

theorem geometryTaken?_isSome_iff (geometry : Option Geometry) : (geometryTaken? geometry).isSome ↔
    ∀ g ∈ geometry, (Geometry.ofNode? 1 g.toJson.node).isSome := by
  cases geometry <;> simp [geometryTaken?]

/--
The attributes of a feature come back, each in its own variant, exactly when the geometry is read and no attribute is a
text that reads as a moment, a date or a time or a double whose digits are scaled to another number.
-/
theorem attributes_return_iff (f : Feature) (least : -Nat.pow 2 63 ≤ f.id) (most : f.id < Nat.pow 2 63)
    (fits : ∀ v ∈ f.attributes, v.Fits) :
    ((Json.parse? f.toJson.compact).bind ofNode?).map attributes = some f.attributes ↔
      (∀ g ∈ f.geometry, (Geometry.ofNode? 1 g.toJson.node).isSome) ∧ ∀ v ∈ f.attributes, v.Returns := by
  have returned : (∀ v ∈ f.attributes, v.Returns) ↔ f.attributes.mapM Value.reread? = some f.attributes := by
    rw [mapM_eq_some_self_iff]
    exact forall₂_congr fun v _ => (Value.reread?_eq_some_iff v).symm
  rw [Json.parse?_compact, Option.bind_some, ofNode?_node least most fits, ← geometryTaken?_isSome_iff, returned]
  cases geometryTaken? f.geometry <;> cases f.attributes.mapM Value.reread? <;> simp

def buoy : Feature where
  id := 3
  geometry := some (.point ⟨⟨0x3ff0000000000000⟩, ⟨0xc000000000000000⟩⟩)
  attributes := [.null, .bool true, .int (-9), .double ⟨0x3fe0000000000000⟩,
    .dateTime ⟨⟨2024, 2, 29, rfl⟩, ⟨23, 59, 59, 1500000000, rfl⟩⟩, .date ⟨-44, 3, 15, rfl⟩, .time ⟨6, 30, 0, 0, rfl⟩,
    .text "2024-02-30", .binary [0, 255]]

theorem attributes_of_buoy_return :
    (-Nat.pow 2 63 ≤ buoy.id ∧ buoy.id < Nat.pow 2 63) ∧ (∀ v ∈ buoy.attributes, v.Fits) ∧
      ((Json.parse? buoy.toJson.compact).bind ofNode?).map attributes = some buoy.attributes := by
  have fits : ∀ v ∈ buoy.attributes, v.Fits := by
    simp [buoy, Value.Fits, Double.isFinite, Double.magnitude, Double.infinityMagnitude]
  have placed : ∀ g ∈ buoy.geometry, (Geometry.ofNode? 1 g.toJson.node).isSome := by
    rintro _ ⟨⟩
    decide +kernel
  have half : (Value.double ⟨0x3fe0000000000000⟩).Returns := Double.reread?_of_short (by decide) (by decide +kernel)
  have unreal : (Value.text "2024-02-30").Returns := by
    unfold Value.Returns
    decide +kernel
  have returns : ∀ v ∈ buoy.attributes, v.Returns := by
    simp only [buoy, List.forall_mem_cons]
    exact ⟨trivial, trivial, trivial, half, trivial, trivial, trivial, unreal, trivial, List.forall_mem_nil _⟩
  exact ⟨by decide, fits, (attributes_return_iff buoy (by decide) (by decide) fits).mpr ⟨placed, returns⟩⟩

def almanac : Feature := ⟨7, none, [.text "2024-01-01"]⟩

theorem text_of_almanac_becomes_date : (∀ v ∈ almanac.attributes, v.Fits) ∧
    ((Json.parse? almanac.toJson.compact).bind ofNode?).map attributes = some [.date ⟨2024, 1, 1, rfl⟩] ∧
      [.date ⟨2024, 1, 1, rfl⟩] ≠ almanac.attributes := by
  have fits : ∀ v ∈ almanac.attributes, v.Fits := by
    simp [almanac, Value.Fits]
  have dated : Value.ofText "2024-01-01" = .date ⟨2024, 1, 1, rfl⟩ := by decide +kernel
  refine ⟨fits, ?_, by simp [almanac]⟩
  rw [Json.parse?_compact, Option.bind_some, ofNode?_node (by decide) (by decide) fits]
  simp [almanac, geometryTaken?, Value.reread?, dated]

end Feature

end FeatureLayers
