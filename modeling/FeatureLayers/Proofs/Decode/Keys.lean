import FeatureLayers.Proofs.Decode.Rows
import Mathlib.Data.List.Nodup

namespace FeatureLayers.Decode

def mayBeKey : Value → Bool
  | .int _ | .double _ | .text _ => true
  | _ => false

abbrev Key := Option Int × Nat

def Key.id (key : Key) : Int := key.1.getD key.2

/-- No number is read twice, and none is the place of a row whose key reads as no number. -/
structure KeysApart (keys : List Key) : Prop where
  readings : ∀ a ∈ keys, ∀ b ∈ keys, ∀ n, a.1 = some n → b.1 = some n → a.2 = b.2
  places : ∀ a ∈ keys, ∀ b ∈ keys, a.1 = none → b.1 ≠ some (a.2 : Int)

theorem KeysApart.of_readings {keys : List Key} (read : ∀ key ∈ keys, key.1 ≠ none)
    (apart : ∀ a ∈ keys, ∀ b ∈ keys, a.1 = b.1 → a.2 = b.2) : KeysApart keys where
  readings a a_member b b_member _ first second := apart a a_member b b_member (first.trans second.symm)
  places a a_member _ _ nothing := absurd nothing (read a a_member)

theorem KeysApart.of_places {keys : List Key} (unread : ∀ key ∈ keys, key.1 = none) : KeysApart keys where
  readings a a_member _ _ _ first := by
    rw [unread a a_member] at first
    cases first
  places _ _ b b_member _ second := by
    rw [unread b b_member] at second
    cases second

theorem ids_nodup_iff {keys : List Key} (placed : (keys.map Prod.snd).Nodup) :
    (keys.map Key.id).Nodup ↔ KeysApart keys := by
  have same_place {a b : Key} (a_member : a ∈ keys) (b_member : b ∈ keys) (same : a.2 = b.2) : a = b :=
    List.inj_on_of_nodup_map placed a_member b_member same
  rw [List.nodup_map_iff_inj_on placed.of_map]
  constructor
  · intro distinct
    constructor
    · intro a a_member b b_member n first second
      have same : a.id = b.id := by rw [Key.id, Key.id, first, second]; rfl
      rw [distinct a a_member b b_member same]
    · intro a a_member b b_member nothing second
      have same : a.id = b.id := by rw [Key.id, Key.id, nothing, second]; rfl
      rw [distinct a a_member b b_member same, second] at nothing
      cases nothing
  · intro apart a a_member b b_member same
    rw [Key.id, Key.id] at same
    cases first : a.1 with
    | none =>
      cases second : b.1 with
      | none =>
        rw [first, second] at same
        exact same_place a_member b_member (Int.ofNat.inj same)
      | some n =>
        rw [first, second] at same
        exact absurd (second.trans (congrArg some same.symm)) (apart.places a a_member b b_member first)
    | some n =>
      cases second : b.1 with
      | none =>
        rw [first, second] at same
        exact absurd (first.trans (congrArg some same)) (apart.places b b_member a a_member second)
      | some m =>
        rw [first, second] at same
        have read : b.1 = some n := second.trans (congrArg some same.symm)
        exact same_place a_member b_member (apart.readings a a_member b b_member n first read)

namespace RowDecoder

variable {d : RowDecoder}

def keyCell (d : RowDecoder) (row : Row) : Value := row.getD d.layout.id .null

def keysFrom (d : RowDecoder) (position : Nat) (rows : List Row) : List Key :=
  ((rows.zipIdx position).filter fun entry => (d.decode entry.1 entry.2).isOk).map fun entry =>
    ((d.keyCell entry.1).asInt?, entry.2)

def keys (d : RowDecoder) (rows : List Row) : List Key := d.keysFrom 0 rows

theorem decode_id {row : Row} {position : Nat} {feature : Feature} (decoded : d.decode row position = .ok feature) :
    feature.id = ((d.keyCell row).asInt?).getD position := by
  obtain ⟨-, geometry, attributes, -, -, rfl⟩ := decode_eq_ok.mp decoded
  rfl

theorem featuresFrom_ids (d : RowDecoder) (position : Nat) (rows : List Row) :
    (d.featuresFrom position rows).map Feature.id = (d.keysFrom position rows).map Key.id := by
  induction rows generalizing position with
  | nil => rfl
  | cons row rows ih =>
    cases decoded : d.decode row position with
    | error e =>
      rw [featuresFrom_cons_error rows decoded, ih, keysFrom, keysFrom, List.zipIdx_cons,
        List.filter_cons_of_neg (by rw [decoded]; exact Bool.false_ne_true)]
    | ok feature =>
      rw [featuresFrom_cons_ok rows decoded, List.map_cons, ih, keysFrom, keysFrom, List.zipIdx_cons,
        List.filter_cons_of_pos (by rw [decoded]; rfl), List.map_cons, List.map_cons, decode_id decoded]
      rfl

theorem mem_keys {rows : List Row} {key : Key} (member : key ∈ d.keys rows) :
    ∃ row, rows[key.2]? = some row ∧ key.1 = (d.keyCell row).asInt? := by
  obtain ⟨⟨row, place⟩, listed, rfl⟩ := List.mem_map.mp member
  exact ⟨row, List.mk_mem_zipIdx_iff_getElem?.mp (List.mem_filter.mp listed).1, rfl⟩

theorem keys_placed (d : RowDecoder) (rows : List Row) : ((d.keys rows).map Prod.snd).Nodup := by
  have places : (rows.zipIdx.map Prod.snd).Nodup := by
    rw [List.zipIdx_map_snd]
    exact List.nodup_range'
  rw [keys, keysFrom, List.map_map]
  exact places.sublist (List.filter_sublist.map Prod.snd)

theorem features_ids_nodup (d : RowDecoder) (rows : List Row) :
    ((d.features rows).map Feature.id).Nodup ↔ KeysApart (d.keys rows) := by
  rw [features, featuresFrom_ids]
  exact ids_nodup_iff (d.keys_placed rows)

theorem keysApart_of_integers {rows : List Row} (integers : ∀ row ∈ rows, ∃ n, d.keyCell row = .int n)
    (distinct : (rows.map d.keyCell).Nodup) : KeysApart (d.keys rows) := by
  refine .of_readings (fun key member => ?_) fun a a_member b b_member same => ?_
  · obtain ⟨row, here, reading⟩ := mem_keys member
    obtain ⟨n, integer⟩ := integers row (List.mem_of_getElem? here)
    rw [reading, integer]
    exact nofun
  · obtain ⟨row, here, reading⟩ := mem_keys a_member
    obtain ⟨row', there, reading'⟩ := mem_keys b_member
    obtain ⟨n, integer⟩ := integers row (List.mem_of_getElem? here)
    obtain ⟨m, integer'⟩ := integers row' (List.mem_of_getElem? there)
    rw [reading, reading', integer, integer'] at same
    obtain rfl : n = m := Option.some.inj same
    have inside : a.2 < (rows.map d.keyCell).length := by
      rw [List.length_map]
      exact (List.getElem?_eq_some_iff.mp here).1
    refine (List.getElem?_inj inside distinct).mp ?_
    rw [List.getElem?_map, List.getElem?_map, here, there, Option.map_some, Option.map_some, integer, integer']

theorem keysApart_of_unread {rows : List Row} (unread : ∀ row ∈ rows, (d.keyCell row).asInt? = none) :
    KeysApart (d.keys rows) := by
  refine .of_places fun key member => ?_
  obtain ⟨row, here, reading⟩ := mem_keys member
  rw [reading]
  exact unread row (List.mem_of_getElem? here)

end RowDecoder

end FeatureLayers.Decode
