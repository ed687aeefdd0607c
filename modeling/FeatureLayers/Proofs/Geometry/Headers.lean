import FeatureLayers.Geometry.Basic

namespace FeatureLayers

def Polygon.rings (p : Polygon) : List (List Coord) := p.exterior :: p.interiors

def ringCloses (ring : List Coord) : Bool :=
  match ring.head?, ring.getLast? with
  | some first, some last => first.eq last
  | _, _ => true

theorem closeRing_of_closes {ring : List Coord} (closes : ringCloses ring) : closeRing ring = ring := by
  unfold ringCloses at closes
  unfold closeRing
  split
  · rename_i first last head last?
    rw [head, last?] at closes
    exact if_pos closes
  · rfl

theorem closeRing_length_le (ring : List Coord) : (closeRing ring).length ≤ ring.length + 1 := by
  unfold closeRing
  split
  · split
    · exact Nat.le_succ _
    · exact Nat.le_of_eq List.length_append
  · exact Nat.le_succ _

theorem ringCloses_closeRing {ring : List Coord}
    (numbers : ∀ first ∈ (closeRing ring).head?, first.x.isNaN = false ∧ first.y.isNaN = false) :
    ringCloses (closeRing ring) := by
  cases ring with
  | nil => rfl
  | cons first rest =>
    obtain ⟨last, last?⟩ : ∃ last, (first :: rest).getLast? = some last :=
      ⟨_, List.getLast?_eq_some_getLast (List.cons_ne_nil first rest)⟩
    have closed : closeRing (first :: rest) = if first.eq last then first :: rest else first :: rest ++ [first] := by
      simp only [closeRing, List.head?_cons, last?]
    rw [closed] at numbers ⊢
    by_cases ends : first.eq last = true
    · rw [if_pos ends]
      simpa only [ringCloses, List.head?_cons, last?] using ends
    · rw [if_neg ends] at numbers ⊢
      obtain ⟨x, y⟩ := numbers first rfl
      have same : first.eq first = true := by simp [Coord.eq, Double.eq, x, y]
      have stops : (first :: rest ++ [first]).getLast? = some first := List.getLast?_concat
      unfold ringCloses
      rw [stops]
      exact same

theorem Polygon.closing_of_closes {p : Polygon} (closes : ∀ ring ∈ p.rings, ringCloses ring) :
    Polygon.closing p.exterior p.interiors = p := by
  have exterior : closeRing p.exterior = p.exterior := closeRing_of_closes (closes _ List.mem_cons_self)
  have interiors : p.interiors.map closeRing = p.interiors := by
    conv => rhs; rw [← List.map_id p.interiors]
    exact List.map_congr_left fun ring member => closeRing_of_closes (closes ring (List.mem_cons_of_mem _ member))
  rw [Polygon.closing, exterior, interiors]

namespace Geometry

mutual

/-- Segments replaced by lines of two coordinates, rectangles and triangles by their polygons, at every level. -/
def plain : Geometry → Geometry
  | .line a b => .lineString [a, b]
  | .rect r => .polygon r.toPolygon
  | .triangle a b c => .polygon (Polygon.closing (triangleRing a b c) [])
  | .geometryCollection members => .geometryCollection (plainMembers members)
  | g => g

def plainMembers : List Geometry → List Geometry
  | [] => []
  | g :: rest => plain g :: plainMembers rest

end

def members : Geometry → List Geometry
  | .multiPoint points => points.map .point
  | .multiLineString lines => lines.map .lineString
  | .multiPolygon polygons => polygons.map .polygon
  | .geometryCollection members => members
  | _ => []

def deeper (header : Nat × Geometry) : Nat × Geometry := (header.1 + 1, header.2)

mutual

/-- The geometries with a header of their own, each with the number of containers around it. -/
def headers : Geometry → List (Nat × Geometry)
  | .multiPoint points => (0, .multiPoint points) :: points.map fun c => (1, .point c)
  | .multiLineString lines => (0, .multiLineString lines) :: lines.map fun line => (1, .lineString line)
  | .multiPolygon polygons => (0, .multiPolygon polygons) :: polygons.map fun p => (1, .polygon p)
  | .geometryCollection members => (0, .geometryCollection members) :: memberHeaders members
  | g => [(0, g)]

def memberHeaders : List Geometry → List (Nat × Geometry)
  | [] => []
  | g :: rest => (headers g).map deeper ++ memberHeaders rest

end

def isEmptyPoint : Geometry → Bool
  | .point c => c.x.isNaN && c.y.isNaN
  | _ => false

def counts : Geometry → List Nat
  | .lineString coords => [coords.length]
  | .polygon p => p.rings.length :: p.rings.map List.length
  | .multiPoint points => [points.length]
  | .multiLineString lines => [lines.length]
  | .multiPolygon polygons => [polygons.length]
  | .geometryCollection members => [members.length]
  | .point _ | .line _ _ | .rect _ | .triangle _ _ _ => []

def rings : Geometry → List (List Coord)
  | .polygon p => p.rings
  | _ => []

def coords : Geometry → List Coord
  | .point c => [c]
  | .line a b => [a, b]
  | .lineString coords => coords
  | .polygon p => p.rings.flatten
  | .rect r => [r.min, r.max]
  | .triangle a b c => [a, b, c]
  | .multiPoint _ | .multiLineString _ | .multiPolygon _ | .geometryCollection _ => []

def allCoords (g : Geometry) : List Coord := g.headers.flatMap fun header => header.2.coords

def allRings (g : Geometry) : List (List Coord) := g.headers.flatMap fun header => header.2.rings

/-- Lists can be counted in 32 bits, and all rings are closed once segments, rectangles and triangles are replaced. -/
structure Storable (g : Geometry) : Prop where
  counted : ∀ header ∈ g.headers, ∀ count ∈ header.2.counts, count < Nat.pow 2 32
  closed : ∀ header ∈ g.plain.headers, ∀ ring ∈ header.2.rings, ringCloses ring

theorem sizeOf_member {g member : Geometry} (h : member ∈ g.members) : sizeOf member < sizeOf g := by
  cases g with
  | multiPoint points =>
    obtain ⟨c, inside, rfl⟩ := List.mem_map.mp h
    have := List.sizeOf_lt_of_mem inside
    simp only [multiPoint.sizeOf_spec, point.sizeOf_spec]
    omega
  | multiLineString lines =>
    obtain ⟨line, inside, rfl⟩ := List.mem_map.mp h
    have := List.sizeOf_lt_of_mem inside
    simp only [multiLineString.sizeOf_spec, lineString.sizeOf_spec]
    omega
  | multiPolygon polygons =>
    obtain ⟨p, inside, rfl⟩ := List.mem_map.mp h
    have := List.sizeOf_lt_of_mem inside
    simp only [multiPolygon.sizeOf_spec, polygon.sizeOf_spec]
    omega
  | geometryCollection members =>
    have := List.sizeOf_lt_of_mem (show member ∈ members from h)
    simp only [geometryCollection.sizeOf_spec]
    omega
  | point | line | lineString | polygon | rect | triangle => cases h

theorem induction_members {motive : Geometry → Prop} (step : ∀ g, (∀ member ∈ g.members, motive member) → motive g)
    (g : Geometry) : motive g :=
  step g fun member _ => induction_members step member
termination_by sizeOf g
decreasing_by exact sizeOf_member ‹_›

theorem plainMembers_eq (members : List Geometry) : plainMembers members = members.map plain := by
  induction members with
  | nil => rfl
  | cons g rest ih => rw [plainMembers, ih, List.map_cons]

theorem memberHeaders_eq (members : List Geometry) :
    memberHeaders members = members.flatMap fun member => member.headers.map deeper := by
  induction members with
  | nil => rfl
  | cons g rest ih => rw [memberHeaders, ih, List.flatMap_cons]

theorem headers_eq (g : Geometry) :
    g.headers = (0, g) :: g.members.flatMap fun member => member.headers.map deeper := by
  cases g with
  | geometryCollection members => rw [headers, memberHeaders_eq]; rfl
  | multiPoint | multiLineString | multiPolygon =>
    rw [headers, members, List.flatMap_map]
    exact congrArg _ List.map_eq_flatMap
  | point | line | lineString | polygon | rect | triangle => rfl

theorem forall_headers {g : Geometry} {P : Nat × Geometry → Prop} (own : P (0, g))
    (others : ∀ member ∈ g.members, ∀ header ∈ member.headers, P (deeper header)) : ∀ header ∈ g.headers, P header := by
  intro header h
  rw [headers_eq, List.mem_cons, List.mem_flatMap] at h
  rcases h with rfl | ⟨member, inside, h⟩
  · exact own
  · obtain ⟨below, within, rfl⟩ := List.mem_map.mp h
    exact others member inside below within

theorem self_mem_headers (g : Geometry) : (0, g) ∈ g.headers := headers_eq g ▸ List.mem_cons_self

theorem deeper_mem_headers {g member : Geometry} (inside : member ∈ g.members) {header : Nat × Geometry}
    (h : header ∈ member.headers) : deeper header ∈ g.headers := by
  rw [headers_eq]
  exact List.mem_cons_of_mem _ (List.mem_flatMap.mpr ⟨member, inside, List.mem_map_of_mem h⟩)

theorem allCoords_eq (g : Geometry) : g.allCoords = g.coords ++ g.members.flatMap allCoords := by
  unfold allCoords
  rw [headers_eq, List.flatMap_cons, List.flatMap_assoc]
  simp only [List.flatMap_map, deeper]

theorem allRings_eq (g : Geometry) : g.allRings = g.rings ++ g.members.flatMap allRings := by
  unfold allRings
  rw [headers_eq, List.flatMap_cons, List.flatMap_assoc]
  simp only [List.flatMap_map, deeper]

theorem members_plain (g : Geometry) : g.plain.members = g.members.map plain := by
  cases g with
  | geometryCollection members => exact plainMembers_eq members
  | multiPoint | multiLineString | multiPolygon =>
    simp only [plain, members, List.map_map]
    rfl
  | point | line | lineString | polygon | rect | triangle => rfl

theorem Storable.member {g member : Geometry} (storable : g.Storable) (inside : member ∈ g.members) :
    member.Storable where
  counted header h := storable.counted (deeper header) (deeper_mem_headers inside h)
  closed header h := by
    refine storable.closed (deeper header) (deeper_mem_headers ?_ h)
    rw [members_plain]
    exact List.mem_map_of_mem inside

end Geometry

end FeatureLayers
