import FeatureLayers.Proofs.Wkb.Prefixes
import FeatureLayers.Proofs.Wkb.RoundTrip
import Mathlib.Algebra.GroupWithZero.Nat

namespace FeatureLayers.Wkb

open FeatureLayers.Geometry

section Sizes

variable {α β : Type} {P Q : α → Nat → Prop}

structure Takes (take : Taking α) (P : α → Nat → Prop) : Prop where
  sized {bytes : List UInt8} {a : α} {rest : List UInt8} (taken : take bytes = .ok (a, rest)) :
    ∃ size, bytes.length = size + rest.length ∧ P a size

theorem Takes.pure {a : α} (holds : P a 0) : Takes (fun rest => .ok (a, rest)) P where
  sized taken := by
    cases taken
    exact ⟨0, (Nat.zero_add _).symm, holds⟩

theorem Takes.refuse (f : Fault) : Takes (fun _ => .error f) P where
  sized taken := by cases taken

theorem Takes.bind {take : Taking α} {next : α × List UInt8 → Except Fault (β × List UInt8)} {Q : β → Nat → Prop}
    (first : Takes take P)
    (second : ∀ a size, P a size → Takes (fun rest => next (a, rest)) fun b more => Q b (size + more)) :
    Takes (fun bytes => take bytes >>= next) Q where
  sized {bytes _ _} taken := by
    cases found : take bytes with
    | error f =>
      rw [found] at taken
      cases taken
    | ok read =>
      rw [found] at taken
      obtain ⟨size, length, holds⟩ := first.sized found
      obtain ⟨more, behind, holds⟩ := (second read.1 size holds).sized taken
      exact ⟨size + more, by omega, holds⟩

theorem Takes.mono {take : Taking α} (takes : Takes take P) (weaker : ∀ a size, P a size → Q a size) :
    Takes take Q where
  sized taken := by
    obtain ⟨size, length, holds⟩ := takes.sized taken
    exact ⟨size, length, weaker _ size holds⟩

theorem Takes.map {take : Taking α} {f : α → β} {Q : β → Nat → Prop} (takes : Takes take P)
    (holds : ∀ a size, P a size → Q (f a) size) : Takes (take.map f) Q :=
  takes.bind fun a size found => Takes.pure (holds a size found)

theorem Takes.ite {take other : Taking α} (condition : Prop) [Decidable condition] (first : condition → Takes take P)
    (second : ¬ condition → Takes other P) : Takes (fun rest => if condition then take rest else other rest) P := by
  by_cases holds : condition
  · simp only [if_pos holds]
    exact first holds
  · simp only [if_neg holds]
    exact second holds

/-- Items one behind the other, each with a size of its own. -/
inductive Laid (P : α → Nat → Prop) : List α → Nat → Prop
  | nil : Laid P [] 0
  | cons {a l m n} (first : P a m) (others : Laid P l n) : Laid P (a :: l) (m + n)

theorem Laid.mem {l : List α} {n : Nat} (laid : Laid P l n) {a : α} (member : a ∈ l) : ∃ m, m ≤ n ∧ P a m := by
  induction laid with
  | nil => cases member
  | @cons a' l m n first others ih =>
    rcases List.mem_cons.mp member with rfl | member
    · exact ⟨m, Nat.le_add_right m n, first⟩
    · obtain ⟨k, le, holds⟩ := ih member
      exact ⟨k, Nat.le_trans le (Nat.le_add_left n m), holds⟩

theorem Laid.map {l : List β} {n : Nat} {form : β → α} (laid : Laid (fun b => P (form b)) l n) :
    Laid P (l.map form) n := by
  induction laid with
  | nil => exact .nil
  | cons first others ih => exact .cons first ih

theorem Laid.le {l : List α} {n : Nat} {weight : α → Nat} (laid : Laid P l n) (heavy : ∀ a m, P a m → weight a ≤ m) :
    (l.map weight).sum ≤ n := by
  induction laid with
  | nil => exact Nat.le_refl 0
  | cons first others ih =>
    rw [List.map_cons, List.sum_cons]
    exact Nat.add_le_add (heavy _ _ first) ih

theorem Takes.byte {take : Taking α} (empty : take [] = .error .endOfData)
    (each : ∀ b, Takes (fun rest => take (b :: rest)) fun a size => P a (size + 1)) : Takes take P where
  sized {bytes _ _} taken := by
    cases bytes with
    | nil =>
      rw [empty] at taken
      cases taken
    | cons b bytes =>
      obtain ⟨size, length, holds⟩ := (each b).sized taken
      exact ⟨size + 1, by rw [List.length_cons]; omega, holds⟩

theorem takes_takeBytes (count : Nat) : Takes (takeBytes count) fun _ size => size = count := by
  induction count with
  | zero => exact Takes.pure rfl
  | succ count ih =>
    exact Takes.byte rfl fun b => ih.bind fun others size same => Takes.pure (congrArg Nat.succ same)

theorem takes_takeByteOrder : Takes takeByteOrder fun _ size => size = 1 :=
  Takes.byte rfl fun b => Takes.ite (b = 0) (fun _ => Takes.pure (a := ByteOrder.bigEndian) rfl) fun _ =>
    Takes.ite (b = 1) (fun _ => Takes.pure (a := ByteOrder.littleEndian) rfl) fun _ => Takes.refuse (.byteOrder b)

variable (order : ByteOrder)

theorem takes_takeWord : Takes (takeWord order) fun _ size => size = 4 :=
  (takes_takeBytes 4).bind fun _ _ same => Takes.pure same

theorem takes_takeDouble : Takes (takeDouble order) fun _ size => size = 8 :=
  (takes_takeBytes 8).bind fun _ _ same => Takes.pure same

theorem takes_takeCount : Takes (takeCount order) fun _ size => size = 4 := by
  refine (takes_takeWord order).bind fun count size same => ⟨fun taken => ?_⟩
  dsimp only at taken
  split at taken
  · cases taken
  · cases taken
    exact ⟨0, (Nat.zero_add _).symm, same⟩

theorem takes_takeMany {take : Taking α} (takes : Takes take P) (count : Nat) :
    Takes (takeMany take count) (Laid P) := by
  induction count with
  | zero => exact Takes.pure Laid.nil
  | succ count ih =>
    exact takes.bind fun first m here => ih.bind fun others n behind =>
      Takes.pure (Laid.cons here behind)

theorem takes_takeList {take : Taking α} (takes : Takes take P) :
    Takes (takeList order take) fun l size => ∃ n, size = 4 + n ∧ Laid P l n :=
  (takes_takeCount order).bind fun count _ same => (takes_takeMany takes count).mono fun _ n laid =>
    ⟨n, same ▸ rfl, laid⟩

end Sizes

section Pieces

variable (h : Header)

theorem takes_takeHeader : Takes takeHeader fun _ size => 5 ≤ size := by
  refine takes_takeByteOrder.bind fun order size first => (takes_takeWord order).bind fun word size' second => ?_
  have told (more : Nat) : Takes (fun rest => do
      let told ← splitTypeWord word
      return (Header.mk order told.1 told.2, rest)) fun _ size'' => 5 ≤ size + (size' + (more + size'')) := by
    cases splitTypeWord word with
    | error f => exact Takes.refuse f
    | ok told => exact Takes.pure (by omega)
  -- A word for a reference system may stand between.
  refine Takes.ite _ (fun _ => (takes_takeWord order).bind fun _ more _ => told more) fun _ => ?_
  exact (told 0).mono fun _ _ enough => by omega

theorem takes_takeCoord : Takes (takeCoord h) fun _ size => 16 ≤ size :=
  (takes_takeDouble h.order).bind fun x _ first => (takes_takeDouble h.order).bind fun y _ second =>
    (takes_takeMany (takes_takeDouble h.order) h.extra).bind fun _ _ _ => Takes.pure (by omega)

theorem takes_takeLine : Takes (takeLine h) fun coords size => 4 + 16 * coords.length ≤ size := by
  refine (takes_takeList h.order (takes_takeCoord h)).mono fun coords size taken => ?_
  obtain ⟨n, rfl, laid⟩ := taken
  have least : (coords.map fun _ => 16).sum ≤ n := laid.le fun _ _ enough => enough
  rw [List.map_const', List.sum_replicate_nat] at least
  omega

theorem takes_takePoint : Takes (takePoint h) fun g size =>
    ∃ c, g = .point c ∧ (c.x.isNaN && c.y.isNaN) = false ∧ 16 ≤ size :=
  (takes_takeCoord h).bind fun c _ enough => Takes.ite _ (fun _ => Takes.refuse .emptyPoint) fun filled =>
    Takes.pure ⟨c, rfl, Bool.eq_false_iff.mpr filled, enough⟩

end Pieces

theorem Laid.rings {rings : List (List Coord)} {n : Nat}
    (laid : Laid (fun coords size => 4 + 16 * coords.length ≤ size) rings n) :
    4 * rings.length ≤ n ∧ 16 * (rings.map closeRing).flatten.length ≤ n + 16 * rings.length := by
  induction laid with
  | nil => exact ⟨Nat.le_refl 0, Nat.le_refl 0⟩
  | @cons ring _ m n first others ih =>
    have longer := closeRing_length_le ring
    rw [List.map_cons, List.flatten_cons, List.length_append, List.length_cons]
    omega

structure RingsSound (p : Polygon) (size : Nat) : Prop where
  closed : ∀ ring ∈ p.rings, ∃ taken, ring = closeRing taken
  counted : 4 * p.rings.length ≤ size
  lengths : ∀ ring ∈ p.rings, ring.length ≤ size
  coords : 16 * p.rings.flatten.length ≤ size + 16 * p.rings.length

theorem takes_takePolygon (h : Header) : Takes (takePolygon h) RingsSound := by
  rw [takePolygon_eq]
  refine (takes_takeList h.order (takes_takeLine h)).map fun rings size taken => ?_
  obtain ⟨n, rfl, laid⟩ := taken
  cases rings with
  | nil =>
    -- The count alone pays for the exterior ring that is there all the same.
    rw [show polygonOf [] = ⟨[], []⟩ from rfl]
    constructor
    · exact fun ring member => ⟨[], List.mem_singleton.mp member⟩
    · exact Nat.le_add_right 4 n
    · exact fun ring member => List.mem_singleton.mp member ▸ Nat.zero_le _
    · exact Nat.zero_le _
  | cons exterior interiors =>
    have same : (polygonOf (exterior :: interiors)).rings = (exterior :: interiors).map closeRing := rfl
    obtain ⟨counted, coords⟩ := laid.rings
    constructor
    · rw [same]
      intro ring member
      obtain ⟨taken, -, rfl⟩ := List.mem_map.mp member
      exact ⟨taken, rfl⟩
    · rw [same, List.length_map]
      omega
    · rw [same]
      intro ring member
      obtain ⟨taken, inside, rfl⟩ := List.mem_map.mp member
      obtain ⟨m, le, enough⟩ := laid.mem inside
      have longer := closeRing_length_le taken
      omega
    · rw [same, List.length_map]
      omega

/-- What comes of a geometry's bytes when this many levels are left for it. -/
structure Sound (levels : Nat) (g : Geometry) (size : Nat) : Prop where
  typed : ∀ header ∈ g.headers, header.2.kind?.isSome
  intact : Intact levels g
  closed : ∀ ring ∈ g.allRings, ∃ taken, ring = closeRing taken
  counted : ∀ header ∈ g.headers, ∀ count ∈ header.2.counts, count ≤ size
  headers : 5 * g.headers.length + 4 * g.allRings.length ≤ size
  coords : 16 * g.allCoords.length ≤ size + 16 * g.allRings.length

theorem Laid.sound {levels : Nat} {members : List Geometry} {n : Nat} (laid : Laid (Sound levels) members n) :
    members.length ≤ n ∧ 5 * (members.flatMap headers).length + 4 * (members.flatMap allRings).length ≤ n ∧
      16 * (members.flatMap allCoords).length ≤ n + 16 * (members.flatMap allRings).length := by
  induction laid with
  | nil => exact ⟨Nat.le_refl 0, Nat.le_refl 0, Nat.le_refl 0⟩
  | @cons member _ m n first others ih =>
    have positive : 0 < member.headers.length := List.length_pos_of_mem (self_mem_headers member)
    have headers := first.headers
    have coords := first.coords
    simp only [List.flatMap_cons, List.length_append, List.length_cons]
    omega

theorem Sound.of_members {depth : Nat} {g : Geometry} {own n : Nat} (laid : Laid (Sound depth) g.members n)
    (typed : g.kind?.isSome) (filled : g.isEmptyPoint = false)
    (closed : ∀ ring ∈ g.rings, ∃ taken, ring = closeRing taken) (counted : ∀ count ∈ g.counts, count ≤ own + n)
    (headers : 5 + 4 * g.rings.length ≤ own) (coords : 16 * g.coords.length ≤ own + 16 * g.rings.length) :
    Sound (depth + 1) g (own + n) := by
  obtain ⟨-, below, within⟩ := laid.sound
  have sound {member : Geometry} (inside : member ∈ g.members) : ∃ m, m ≤ n ∧ Sound depth member m := laid.mem inside
  constructor
  · refine forall_headers typed fun member inside header h => ?_
    obtain ⟨m, -, sound⟩ := sound inside
    exact sound.typed header h
  · refine (intact_iff (depth + 1) g).mpr ⟨Nat.succ_pos depth, filled, fun member inside => ?_⟩
    obtain ⟨m, -, sound⟩ := sound inside
    exact sound.intact
  · rw [allRings_eq]
    intro ring h
    rcases List.mem_append.mp h with h | h
    · exact closed ring h
    · obtain ⟨member, inside, h⟩ := List.mem_flatMap.mp h
      obtain ⟨m, -, sound⟩ := sound inside
      exact sound.closed ring h
  · refine forall_headers counted fun member inside header h count among => ?_
    obtain ⟨m, le, sound⟩ := sound inside
    have := sound.counted header h count among
    omega
  · rw [headers_eq, allRings_eq, List.length_cons, List.length_append]
    -- The members' headers are as many when they are counted a level deeper.
    have same : (g.members.flatMap fun member => member.headers.map deeper).length =
        (g.members.flatMap Geometry.headers).length := by
      rw [List.length_flatMap, List.length_flatMap]
      exact congrArg List.sum (List.map_congr_left fun member _ => List.length_map _)
    omega
  · rw [allCoords_eq, allRings_eq, List.length_append, List.length_append]
    omega

theorem Sound.leaf {depth : Nat} {g : Geometry} {size : Nat} (alone : g.members = []) (typed : g.kind?.isSome)
    (filled : g.isEmptyPoint = false) (closed : ∀ ring ∈ g.rings, ∃ taken, ring = closeRing taken)
    (counted : ∀ count ∈ g.counts, count ≤ size) (headers : 5 + 4 * g.rings.length ≤ size)
    (coords : 16 * g.coords.length ≤ size + 16 * g.rings.length) : Sound (depth + 1) g size := by
  have members : Laid (Sound depth) g.members 0 := alone ▸ Laid.nil
  exact Sound.of_members members typed filled closed counted headers coords

theorem takes_container {α : Type} {depth : Nat} {h : Header} {accept : Geometry → Except Fault α}
    {build : List α → Geometry} {form : α → Geometry} (takes : Takes (takeGeometry depth) (Sound depth))
    (accepted : ∀ g a, accept g = .ok a → g = form a) (held : ∀ items, (build items).members = items.map form)
    (typed : ∀ items, (build items).kind?.isSome) (filled : ∀ items, (build items).isEmptyPoint = false)
    (bare : ∀ items, (build items).rings = [] ∧ (build items).coords = [] ∧ (build items).counts = [items.length]) :
    Takes ((takeMembers h (takeGeometry depth) accept).map build) fun g size =>
      ∀ front, 5 ≤ front → Sound (depth + 1) g (front + size) := by
  have each : Takes (accepting (takeGeometry depth) accept) fun a size => Sound depth (form a) size := by
    refine takes.bind fun g size sound => ?_
    dsimp only
    cases found : accept g with
    | error f => exact Takes.refuse f
    | ok a =>
      rw [accepted g a found] at sound
      exact Takes.pure sound
  refine (takes_takeList h.order each).map fun items size taken front enough => ?_
  obtain ⟨n, rfl, laid⟩ := taken
  obtain ⟨rings, coords, counts⟩ := bare items
  have members : Laid (Sound depth) (build items).members n := held items ▸ laid.map
  have many : items.length ≤ n := by
    rw [← List.length_map form, ← held]
    exact members.sound.1
  rw [← Nat.add_assoc]
  refine Sound.of_members members (typed items) (filled items) ?_ ?_ ?_ ?_
  · rw [rings]
    exact nofun
  · rw [counts]
    intro count h
    rw [List.mem_singleton.mp h]
    omega
  · rw [rings]
    exact Nat.le_trans enough (Nat.le_add_right front 4)
  · rw [coords]
    exact Nat.zero_le _

theorem takes_takeBody {depth : Nat} (takes : Takes (takeGeometry depth) (Sound depth)) (h : Header) (shape : Shape) :
    Takes (takeBody depth h shape) fun g size => ∀ front, 5 ≤ front → Sound (depth + 1) g (front + size) := by
  cases shape with
  | point =>
    refine (takes_takePoint h).mono fun g size taken front enough => ?_
    obtain ⟨c, rfl, filled, held⟩ := taken
    exact .leaf rfl rfl filled nofun nofun (show 5 ≤ front + size by omega) (show 16 ≤ front + size by omega)
  | lineString =>
    refine (takes_takeLine h).map fun line size held front enough => ?_
    refine .leaf rfl rfl rfl nofun (fun count h => ?_) (show 5 ≤ front + size by omega)
      (show 16 * line.length ≤ front + size by omega)
    rw [List.mem_singleton.mp h]
    omega
  | polygon =>
    refine (takes_takePolygon h).map fun p size taken front enough => ?_
    obtain ⟨closed, counted, lengths, held⟩ := taken
    refine .leaf rfl rfl rfl closed (fun count h => ?_) (show 5 + 4 * p.rings.length ≤ front + size by omega)
      (show 16 * p.rings.flatten.length ≤ front + size + 16 * p.rings.length by omega)
    rcases List.mem_cons.mp h with rfl | h
    · omega
    · obtain ⟨ring, inside, rfl⟩ := List.mem_map.mp h
      exact Nat.le_trans (lengths ring inside) (Nat.le_add_left size front)
  | multiPoint | multiLineString | multiPolygon =>
    refine takes_container takes (fun g item accepted => ?_) (fun _ => rfl) (fun _ => rfl) (fun _ => rfl) fun _ =>
      ⟨rfl, rfl, rfl⟩
    cases g <;> cases accepted
    rfl
  | geometryCollection =>
    exact takes_container takes (fun g member accepted => Except.ok.inj accepted)
      (fun items => (List.map_id' items).symm) (fun _ => rfl) (fun _ => rfl) fun _ => ⟨rfl, rfl, rfl⟩

theorem takes_takeGeometry (levels : Nat) : Takes (takeGeometry levels) (Sound levels) := by
  induction levels with
  | zero => exact Takes.refuse .tooDeep
  | succ depth ih =>
    rw [funext (takeGeometry_succ depth)]
    refine takes_takeHeader.bind fun h front enough => ?_
    dsimp only
    cases Shape.ofCode? h.code with
    | none => exact Takes.refuse (.unknownType h.code)
    | some shape => exact (takes_takeBody ih h shape).mono fun g size sound => sound front enough

section Whole

variable {bytes : List UInt8} {g : Geometry}

theorem sound_of_accepted (accepted : Decode.readWkb bytes = .ok g) : Sound (maxDepth + 1) g bytes.length := by
  obtain ⟨size, length, sound⟩ := (takes_takeGeometry (maxDepth + 1)).sized (readWkb_ok_iff.mp accepted)
  exact length ▸ sound

/--
Accepted bytes hold geometries of known kinds, at most 32 containers deep and without empty points. They have a
coordinate for each sixteen bytes and one more for each ring, and a ring for each four bytes. When the counts fit in 32
bits and every ring starts with numbers, the rings are closed and the geometry is written and read again as it is.
-/
theorem accepted_geometry_is_canonical (accepted : Decode.readWkb bytes = .ok g) :
    (∀ header ∈ g.headers, header.2.kind?.isSome ∧ header.2.isEmptyPoint = false ∧ header.1 ≤ maxDepth) ∧
    g.allCoords.length ≤ bytes.length / 16 + g.allRings.length ∧ g.allRings.length ≤ bytes.length / 4 + 1 ∧
    (bytes.length < Nat.pow 2 32 →
      (∀ ring ∈ g.allRings, ∀ first ∈ ring.head?, first.x.isNaN = false ∧ first.y.isNaN = false) →
      (∀ ring ∈ g.allRings, ringCloses ring) ∧ Decode.readWkb (write g) = .ok g) := by
  obtain ⟨typed, intact, closed, counted, headers, coords⟩ := sound_of_accepted accepted
  refine ⟨fun header h => ⟨typed header h, (intact header h).2, Nat.lt_succ_iff.mp (intact header h).1⟩,
    by omega, by omega, fun short numbers => ?_⟩
  have closes : ∀ ring ∈ g.allRings, ringCloses ring := by
    intro ring h
    obtain ⟨taken, rfl⟩ := closed ring h
    exact ringCloses_closeRing (numbers _ h)
  have plain : g.plain = g := plain_of_typed g typed
  have storable : g.Storable := by
    refine ⟨fun header h count among => Nat.lt_of_le_of_lt (counted header h count among) short,
      fun header h ring among => ?_⟩
    rw [plain] at h
    exact closes ring (List.mem_flatMap.mpr ⟨header, h, among⟩)
  refine ⟨closes, readWkb_ok_iff.mpr ?_⟩
  have taken := (reads_geometry g (maxDepth + 1) storable).ok intact []
  rwa [List.append_nil, plain] at taken

section Atoll

/-- An islet, little-endian and with a ring that does not end where it starts, beside one without rings. -/
def atoll : List UInt8 :=
  [0, 0, 0, 0, 7, 0, 0, 0, 2] ++
    ([1, 3, 0, 0, 0, 1, 0, 0, 0, 3, 0, 0, 0] ++ [0, 0, 0, 0, 0, 0, 0, 0] ++ [0, 0, 0, 0, 0, 0, 0, 0] ++
      [0, 0, 0, 0, 0, 0, 0, 64] ++ [0, 0, 0, 0, 0, 0, 0, 0] ++ [0, 0, 0, 0, 0, 0, 0, 64] ++ [0, 0, 0, 0, 0, 0, 0, 64]) ++
    [0, 0, 0, 0, 3, 0, 0, 0, 0]

def islets : Geometry := .geometryCollection [.polygon ⟨[origin, southEast, northEast, origin], []⟩, .polygon ⟨[], []⟩]

theorem islets_of_atoll_are_canonical :
    Decode.readWkb atoll = .ok islets ∧
    (∀ header ∈ islets.headers, header.2.kind?.isSome ∧ header.2.isEmptyPoint = false ∧ header.1 ≤ maxDepth) ∧
    islets.allCoords.length ≤ atoll.length / 16 + islets.allRings.length ∧
    islets.allRings.length ≤ atoll.length / 4 + 1 ∧
    (∀ ring ∈ islets.allRings, ringCloses ring) ∧ Decode.readWkb (write islets) = .ok islets := by
  have accepted : Decode.readWkb atoll = .ok islets := by rfl
  obtain ⟨canonical, coords, rings, again⟩ := accepted_geometry_is_canonical accepted
  exact ⟨accepted, canonical, coords, rings, again (by decide) (by decide)⟩

end Atoll

end Whole

end FeatureLayers.Wkb
