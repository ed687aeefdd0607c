import FeatureLayers.Decode.Row

namespace FeatureLayers.Decode.RowDecoder

/-- The features of the rows that decode, in row order, when the first row lies at `position`. -/
def featuresFrom (d : RowDecoder) (position : Nat) (rows : List Row) : List Feature :=
  (rows.zipIdx position).filterMap fun (row, place) => (d.decode row place).toOption

def features (d : RowDecoder) (rows : List Row) : List Feature := d.featuresFrom 0 rows

variable {d : RowDecoder}

theorem featuresFrom_nil (position : Nat) : d.featuresFrom position [] = [] := rfl

theorem featuresFrom_cons_ok {row : Row} {position : Nat} {feature : Feature} (rest : List Row)
    (decoded : d.decode row position = .ok feature) :
    d.featuresFrom position (row :: rest) = feature :: d.featuresFrom (position + 1) rest := by
  simp [featuresFrom, List.zipIdx_cons, decoded, Except.toOption]

theorem featuresFrom_cons_error {row : Row} {position : Nat} {fault : Fault} (rest : List Row)
    (undecoded : d.decode row position = .error fault) :
    d.featuresFrom position (row :: rest) = d.featuresFrom (position + 1) rest := by
  simp [featuresFrom, List.zipIdx_cons, undecoded, Except.toOption]

theorem featuresFrom_append (position : Nat) (front back : List Row) :
    d.featuresFrom position (front ++ back) =
      d.featuresFrom position front ++ d.featuresFrom (position + front.length) back := by
  simp only [featuresFrom, List.zipIdx_append, List.filterMap_append]

theorem features_take_drop (rows : List Row) {position : Nat} (inside : position ≤ rows.length) :
    d.features rows = d.features (rows.take position) ++ d.featuresFrom position (rows.drop position) := by
  conv => lhs; rw [← List.take_append_drop position rows]
  rw [features, featuresFrom_append, List.length_take, Nat.min_eq_left inside, Nat.zero_add]
  rfl

theorem features_take_succ {rows rest : List Row} {row : Row} {position : Nat}
    (ahead : rows.drop position = row :: rest) :
    d.features (rows.take (position + 1)) = d.features (rows.take position) ++ d.featuresFrom position [row] := by
  have inside : position < rows.length := by
    have := congrArg List.length ahead
    simp only [List.length_drop, List.length_cons] at this
    omega
  have here : rows.take (position + 1) = rows.take position ++ [row] := by
    rw [List.take_add, ahead, List.take_succ_cons, List.take_zero]
  rw [features, here, featuresFrom_append, List.length_take, Nat.min_eq_left (by omega), Nat.zero_add]
  rfl

theorem mem_features {rows : List Row} {feature : Feature} (member : feature ∈ d.features rows) :
    ∃ row ∈ rows, ∃ position, d.decode row position = .ok feature := by
  obtain ⟨⟨row, position⟩, placed, decoded⟩ := List.mem_filterMap.mp member
  refine ⟨row, List.fst_mem_of_mem_zipIdx placed, position, ?_⟩
  dsimp only at decoded
  cases outcome : d.decode row position with
  | error fault =>
    rw [outcome] at decoded
    cases decoded
  | ok found =>
    rw [outcome] at decoded
    exact congrArg Except.ok (Option.some.inj decoded)

theorem features_map {α : Type} {items : List α} {row : α → Row} {feature : α → Feature}
    (each : ∀ item ∈ items, ∀ position, d.decode (row item) position = .ok (feature item)) :
    d.features (items.map row) = items.map feature := by
  have anywhere : ∀ position, d.featuresFrom position (items.map row) = items.map feature := by
    induction items with
    | nil => exact fun position => featuresFrom_nil position
    | cons item items ih =>
      intro position
      rw [List.map_cons, featuresFrom_cons_ok _ (each item List.mem_cons_self position),
        ih (fun other member => each other (List.mem_cons_of_mem _ member)), List.map_cons]
  exact anywhere 0

theorem decode_eq_ok {row : Row} {position : Nat} {feature : Feature} :
    d.decode row position = .ok feature ↔ d.layout.width ≤ row.length ∧
      ∃ geometry attributes, d.geometryOf row = .ok geometry ∧ d.attributesOf (d.attributeRow row) = .ok attributes ∧
        feature = ⟨((row.getD d.layout.id .null).asInt?).getD position, geometry, attributes⟩ := by
  unfold decode
  by_cases narrow : row.length < d.layout.width
  · rw [if_pos narrow]
    exact ⟨nofun, fun ⟨wide, _⟩ => absurd narrow (Nat.not_lt.mpr wide)⟩
  · rw [if_neg narrow]
    have wide := Nat.not_lt.mp narrow
    cases d.geometryOf row with
    | error fault => exact ⟨nofun, fun ⟨_, _, _, nothing, _⟩ => nomatch nothing⟩
    | ok geometry =>
      cases d.attributesOf (d.attributeRow row) with
      | error fault => exact ⟨nofun, fun ⟨_, _, _, _, nothing, _⟩ => nomatch nothing⟩
      | ok attributes =>
        constructor
        · rintro ⟨⟩
          exact ⟨wide, geometry, attributes, rfl, rfl, rfl⟩
        · rintro ⟨-, _, _, ⟨⟩, ⟨⟩, rfl⟩
          rfl

/-- Whether a row decodes is neither a question of its place nor of the system that its geometry is moved to. -/
theorem decodes_moved {row : Row} {position : Nat} {feature : Feature} (decoded : d.decode row position = .ok feature)
    (transform : Option Crs.Transform) (place : Nat) :
    ∃ feature, ({ d with transform } : RowDecoder).decode row place = .ok feature := by
  obtain ⟨wide, geometry, attributes, shaped, valued, -⟩ := decode_eq_ok.mp decoded
  obtain ⟨shape, moved⟩ : ∃ shape, ({ d with transform } : RowDecoder).geometryOf row = .ok shape := by
    unfold geometryOf at shaped ⊢
    dsimp only
    cases there : d.layout.geometry with
    | none => exact ⟨none, rfl⟩
    | some column =>
      dsimp only
      rw [there] at shaped
      cases read : readPayload d.encoding (row.getD column .null) with
      | error fault =>
        dsimp only at shaped
        rw [read] at shaped
        cases shaped
      | ok found => exact ⟨_, rfl⟩
  exact ⟨_, decode_eq_ok.mpr ⟨wide, shape, attributes, moved, valued, rfl⟩⟩

theorem features_length {rows : List Row}
    (each : ∀ row ∈ rows, ∀ position, ∃ feature, d.decode row position = .ok feature) :
    (d.features rows).length = rows.length := by
  have anywhere : ∀ position, (d.featuresFrom position rows).length = rows.length := by
    induction rows with
    | nil => exact fun position => rfl
    | cons row rows ih =>
      intro position
      obtain ⟨feature, decoded⟩ := each row List.mem_cons_self position
      rw [featuresFrom_cons_ok _ decoded, List.length_cons, List.length_cons,
        ih (fun other member => each other (List.mem_cons_of_mem _ member))]
  exact anywhere 0

end FeatureLayers.Decode.RowDecoder
