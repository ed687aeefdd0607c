import FeatureLayers.Crs.Transform

namespace FeatureLayers.Crs

namespace Transform

variable {t : Transform} {a b : Int}

def Connects (t : Transform) (a b : Int) : Prop :=
  (t.source = a ∧ t.target = b) ∨ (t.source = b ∧ t.target = a)

instance (t : Transform) (a b : Int) : Decidable (t.Connects a b) :=
  inferInstanceAs (Decidable (_ ∨ _))

theorem connects_comm : t.Connects a b ↔ t.Connects b a := Or.comm

def startingIn (t : Transform) (a : Int) : Transform := if t.source = a then t else t.inverted

theorem directed?_eq (t : Transform) (apart : a ≠ b) :
    t.directed? a b = if t.Connects a b then some (t.startingIn a) else none := by
  unfold directed? startingIn Connects
  by_cases along : t.source = a ∧ t.target = b
  · simp [along]
  · by_cases against : t.source = b ∧ t.target = a
    · simp [against, apart.symm, apart]
    · simp [along, against]

theorem startingIn_source (connects : t.Connects a b) : (t.startingIn a).source = a := by
  unfold startingIn
  split
  case isTrue same => exact same
  case isFalse other => exact (connects.resolve_left fun along => other along.1).2

theorem startingIn_target (apart : a ≠ b) (connects : t.Connects a b) : (t.startingIn a).target = b := by
  obtain ⟨rfl, rfl⟩ | ⟨rfl, rfl⟩ := connects
  · simp [startingIn]
  · simp [startingIn, apart.symm, inverted]

theorem startingIn_other (apart : a ≠ b) (connects : t.Connects a b) : t.startingIn b = (t.startingIn a).inverted := by
  obtain ⟨rfl, rfl⟩ | ⟨rfl, rfl⟩ := connects
  · simp [startingIn, apart]
  · simp [startingIn, apart.symm, inverted]

end Transform

namespace Registry

variable {registry : Registry} {s t : Int}

/-- The transforms in the order they are tried in: the built-in one comes after all that are registered. -/
def tried (registry : Registry) : List Transform := registry ++ [webMercator]

theorem between_eq_find? (registry : Registry) (apart : s ≠ t) :
    registry.between (some s) (some t) =
      match registry.tried.find? (·.Connects s t) with
      | some found => .via (found.startingIn s)
      | none => .unsupported s t := by
  have searched (candidates : List Transform) : candidates.findSome? (·.directed? s t) =
      (candidates.find? (·.Connects s t)).map (·.startingIn s) := by
    induction candidates with
    | nil => rfl
    | cons first rest ih =>
      rw [List.findSome?_cons, List.find?_cons, first.directed?_eq apart, ih]
      by_cases connects : first.Connects s t <;> simp [connects]
  simp only [between, if_neg apart]
  rw [searched, ← tried]
  cases registry.tried.find? (·.Connects s t) <;> rfl

/-- The same candidate is found for both directions. -/
theorem find?_connects_comm (candidates : List Transform) (s t : Int) :
    candidates.find? (·.Connects t s) = candidates.find? (·.Connects s t) := by
  simp only [Transform.connects_comm (a := t)]

/-- Two different systems are connected in both directions or in none, and by the transform that is tried first among
those that connect them. The two routes are its two directions. -/
theorem between_both_ways (registry : Registry) (apart : s ≠ t) :
    (∃ before found after forth back,
      registry ++ [webMercator] = before ++ found :: after ∧ found.Connects s t ∧
      (∀ earlier ∈ before, ¬ earlier.Connects s t) ∧
      registry.between (some s) (some t) = .via forth ∧ registry.between (some t) (some s) = .via back ∧
      forth = (if found.source = s then found else found.inverted) ∧
      forth.source = s ∧ forth.target = t ∧ back.source = t ∧ back.target = s ∧
      forth.forward = back.inverse ∧ forth.inverse = back.forward) ∨
    ((∀ known ∈ registry ++ [webMercator], ¬ known.Connects s t) ∧
      registry.between (some s) (some t) = .unsupported s t ∧
      registry.between (some t) (some s) = .unsupported t s) := by
  rw [registry.between_eq_find? apart, registry.between_eq_find? apart.symm, find?_connects_comm _ s t]
  cases search : registry.tried.find? (·.Connects s t) with
  | none =>
    refine .inr ⟨fun known tried => ?_, rfl, rfl⟩
    simpa using List.find?_eq_none.mp search known tried
  | some found =>
    obtain ⟨connects, before, after, order, refused⟩ := List.find?_eq_some_iff_append.mp search
    have connects : found.Connects s t := of_decide_eq_true connects
    have opposite := found.startingIn_other apart connects
    refine .inl ⟨before, found, after, found.startingIn s, found.startingIn t, order, connects, fun earlier mem => ?_,
      rfl, rfl, rfl, found.startingIn_source connects, found.startingIn_target apart connects,
      found.startingIn_source (Transform.connects_comm.mp connects),
      found.startingIn_target apart.symm (Transform.connects_comm.mp connects), ?_, ?_⟩
    · simpa using refused earlier mem
    · rw [opposite]; rfl
    · rw [opposite]; rfl

/-- A registered pair comes before the built-in one, here registered the other way round. -/
theorem between_both_ways_overridden :
    let grid := Transform.affine webMercatorSrid wgs84 (.ofNat 2) (.ofNat 0) (.ofNat 0)
    ∃ forth back, between [grid] (some wgs84) (some webMercatorSrid) = .via forth ∧
      between [grid] (some webMercatorSrid) (some wgs84) = .via back ∧
      forth.forward = grid.inverse ∧ back.forward = grid.forward := by
  intro grid
  have connects : grid.Connects wgs84 webMercatorSrid := .inr ⟨rfl, rfl⟩
  rcases between_both_ways [grid] (s := wgs84) (t := webMercatorSrid) (by decide) with
    ⟨before, found, after, forth, back, order, -, refused, there, home, direction, -, -, -, -, -, opposite⟩ |
    ⟨unconnected, -, -⟩
  · cases before with
    | nil =>
      obtain ⟨rfl, -⟩ := List.cons.inj order
      exact ⟨forth, back, there, home, by rw [direction]; rfl, by rw [← opposite, direction]; rfl⟩
    | cons first before =>
      obtain ⟨rfl, -⟩ := List.cons.inj order
      exact absurd connects (refused _ List.mem_cons_self)
  · exact absurd connects (unconnected grid List.mem_cons_self)

end Registry

end FeatureLayers.Crs
