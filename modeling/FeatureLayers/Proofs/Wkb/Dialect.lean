import FeatureLayers.Decode.Row
import FeatureLayers.Proofs.Geometry.Headers
import FeatureLayers.Proofs.Wkb.Taking
import Mathlib.Algebra.GroupWithZero.Nat

namespace FeatureLayers.Wkb

open FeatureLayers.Geometry

inductive Ordinates
  | xy
  | xyz
  | xym
  | xyzm
deriving DecidableEq, Repr

inductive Marking
  | flags
  | thousands
deriving DecidableEq, Repr

namespace Ordinates

def extra : Ordinates → Nat
  | .xy => 0
  | .xyz | .xym => 1
  | .xyzm => 2

def mark : Ordinates → Marking → Nat
  | .xy, _ => 0
  | .xyz, .flags => flagZ
  | .xym, .flags => flagM
  | .xyzm, .flags => flagZ + flagM
  | .xyz, .thousands => 1000
  | .xym, .thousands => 2000
  | .xyzm, .thousands => 3000

end Ordinates

/-- How a header is written, and what stands behind it up to the next one. -/
structure Style where
  order : ByteOrder
  srid : Option UInt32
  ordinates : Ordinates
  marking : Marking
  z : Nat → Nat → Double
  m : Nat → Nat → Double
  omitsEmptyRing : Bool

def ByteOrder.byte : ByteOrder → UInt8
  | .bigEndian => 0
  | .littleEndian => 1

def typeWord (ordinates : Ordinates) (marking : Marking) (isReferenced : Bool) (shape : Shape) : Nat :=
  shape.code + ordinates.mark marking + if isReferenced then flagSrid else 0

namespace Style

def header (s : Style) (shape : Shape) : List UInt8 :=
  s.order.byte :: (s.order.bytesOf 4 (typeWord s.ordinates s.marking s.srid.isSome shape) ++
    s.srid.elim [] fun srid => s.order.bytesOf 4 srid.toNat)

def countBytes (s : Style) (n : Nat) : List UInt8 := s.order.bytesOf 4 n

def doubleBytes (s : Style) (x : Double) : List UInt8 := s.order.bytesOf 8 x.bits.toNat

def extras (s : Style) (ring place : Nat) : List Double :=
  match s.ordinates with
  | .xy => []
  | .xyz => [s.z ring place]
  | .xym => [s.m ring place]
  | .xyzm => [s.z ring place, s.m ring place]

def coordBytes (s : Style) (ring place : Nat) (c : Coord) : List UInt8 :=
  s.doubleBytes c.x ++ s.doubleBytes c.y ++ (s.extras ring place).flatMap s.doubleBytes

def lineBytes (s : Style) (ring : Nat) (coords : List Coord) : List UInt8 :=
  s.countBytes coords.length ++ coords.zipIdx.flatMap fun (c, place) => s.coordBytes ring place c

def ringsOf (s : Style) (p : Polygon) : List (List Coord) :=
  if s.omitsEmptyRing && p.exterior.isEmpty && p.interiors.isEmpty then [] else p.rings

def polygonBytes (s : Style) (p : Polygon) : List UInt8 :=
  s.countBytes (s.ringsOf p).length ++ (s.ringsOf p).zipIdx.flatMap fun (coords, ring) => s.lineBytes ring coords

def renderPoint (s : Style) (c : Coord) : List UInt8 := s.header .point ++ s.coordBytes 0 0 c

def renderLine (s : Style) (coords : List Coord) : List UInt8 := s.header .lineString ++ s.lineBytes 0 coords

def renderPolygon (s : Style) (p : Polygon) : List UInt8 := s.header .polygon ++ s.polygonBytes p

end Style

/-- A style for each header. Headers are found by the places of the members that lead to them, from the outermost. -/
abbrev Styling := List Nat → Style

def Styling.member (styling : Styling) (place : Nat) : Styling := fun path => styling (place :: path)

mutual

def render (styling : Styling) : Geometry → List UInt8
  | .point c => (styling []).renderPoint c
  | .line a b => (styling []).renderLine [a, b]
  | .lineString coords => (styling []).renderLine coords
  | .polygon p => (styling []).renderPolygon p
  | .multiPoint points => (styling []).header .multiPoint ++ (styling []).countBytes points.length ++
      points.zipIdx.flatMap fun (c, place) => (styling [place]).renderPoint c
  | .multiLineString lines => (styling []).header .multiLineString ++ (styling []).countBytes lines.length ++
      lines.zipIdx.flatMap fun (coords, place) => (styling [place]).renderLine coords
  | .multiPolygon polygons => (styling []).header .multiPolygon ++ (styling []).countBytes polygons.length ++
      polygons.zipIdx.flatMap fun (p, place) => (styling [place]).renderPolygon p
  | .geometryCollection members => (styling []).header .geometryCollection ++
      (styling []).countBytes members.length ++ renderMembers styling 0 members
  | .rect r => (styling []).renderPolygon r.toPolygon
  | .triangle a b c => (styling []).renderPolygon (Polygon.closing (triangleRing a b c) [])

def renderMembers (styling : Styling) (place : Nat) : List Geometry → List UInt8
  | [] => []
  | g :: rest => render (styling.member place) g ++ renderMembers styling (place + 1) rest

end

theorem renderMembers_eq (styling : Styling) (place : Nat) (members : List Geometry) :
    renderMembers styling place members =
      (members.zipIdx place).flatMap fun (g, place) => render (styling.member place) g := by
  induction members generalizing place with
  | nil => rfl
  | cons g rest ih => rw [renderMembers, ih, List.zipIdx_cons, List.flatMap_cons]

section Words

variable (ordinates : Ordinates) (marking : Marking) (isReferenced : Bool) (shape : Shape)

theorem typeWord_fits : typeWord ordinates marking isReferenced shape < Nat.pow 2 32 := by
  cases ordinates <;> cases marking <;> cases isReferenced <;> cases shape <;> decide

theorem hasFlag_typeWord : hasFlag (typeWord ordinates marking isReferenced shape) flagSrid = isReferenced := by
  cases ordinates <;> cases marking <;> cases isReferenced <;> cases shape <;> rfl

theorem splitTypeWord_typeWord :
    splitTypeWord (typeWord ordinates marking isReferenced shape) = .ok (shape.code, ordinates.extra) := by
  cases ordinates <;> cases marking <;> cases isReferenced <;> cases shape <;> rfl

end Words

section Pieces

variable (s : Style) (shape : Shape)

def Style.headerOf : Header := ⟨s.order, shape.code, s.ordinates.extra⟩

theorem takeHeader_header (rest : List UInt8) : takeHeader (s.header shape ++ rest) = .ok (s.headerOf shape, rest) := by
  have first (behind : List UInt8) : takeByteOrder (s.order.byte :: behind) = .ok (s.order, behind) := by
    cases s.order <;> rfl
  have word (behind : List UInt8) := takeWord_bytesOf s.order
    (typeWord_fits s.ordinates s.marking s.srid.isSome shape) behind
  unfold takeHeader Style.header
  rw [List.cons_append, first, List.append_assoc]
  simp only [Bind.bind, Except.bind, word, hasFlag_typeWord, splitTypeWord_typeWord]
  cases s.srid with
  | none => rfl
  | some srid =>
    have told : takeWord s.order (s.order.bytesOf 4 srid.toNat ++ rest) = .ok (srid.toNat, rest) :=
      takeWord_bytesOf s.order srid.toNat_lt rest
    simp only [Option.isSome_some, if_true, Option.elim_some, told]
    rfl

theorem takeCoord_coordBytes (ring place : Nat) (c : Coord) (rest : List UInt8) :
    takeCoord (s.headerOf shape) (s.coordBytes ring place c ++ rest) = .ok (c, rest) := by
  have length : s.ordinates.extra = (s.extras ring place).length := by
    unfold Style.extras
    cases s.ordinates <;> rfl
  have double (x : Double) (behind : List UInt8) : takeDouble s.order (s.doubleBytes x ++ behind) = .ok (x, behind) :=
    takeDouble_bytesOf s.order x behind
  have doubles : Reads (takeMany (takeDouble s.order) (s.extras ring place).length)
      ((s.extras ring place).flatMap s.doubleBytes) (∀ x ∈ s.extras ring place, True) ((s.extras ring place).map id) :=
    Reads.many fun x _ => Reads.always (double x)
  have extras := doubles.ok (fun _ _ => trivial) rest
  unfold takeCoord Style.coordBytes Style.headerOf
  rw [List.append_assoc, List.append_assoc]
  simp only [Bind.bind, Except.bind, double, length, extras]
  rfl

theorem reads_point (c : Coord) :
    Reads (takePoint (s.headerOf shape)) (s.coordBytes 0 0 c) (¬ (c.x.isNaN && c.y.isNaN) = true) (.point c) where
  ok filled rest := by
    simp only [takePoint, takeCoord_coordBytes, Bind.bind, Except.bind, if_neg filled]
    rfl
  fault empty rest := by
    refine ⟨.emptyPoint, ?_, .inl rfl⟩
    simp only [takePoint, takeCoord_coordBytes, Bind.bind, Except.bind, if_pos (Decidable.not_not.mp empty)]

theorem countBytes_append_pos (n : Nat) (bytes : List UInt8) : 0 < (s.countBytes n ++ bytes).length := by
  rw [List.length_append, Style.countBytes, ByteOrder.bytesOf_length]
  omega

theorem reads_placed {α β : Type} {take : Taking α} {items : List β} (write : Nat → β → List UInt8)
    {sound : β → Prop} (value : β → α) (fits : items.length < Nat.pow 2 32)
    (filled : ∀ item ∈ items, ∀ place, 0 < (write place item).length)
    (each : ∀ item ∈ items, ∀ place, Reads take (write place item) (sound item) (value item)) :
    Reads (takeList s.order take)
      (s.countBytes items.length ++ items.zipIdx.flatMap fun (item, place) => write place item)
      (∀ item ∈ items, sound item) (items.map value) := by
  have inside (placed : β × Nat) (member : placed ∈ items.zipIdx) : placed.1 ∈ items :=
    List.fst_mem_of_mem_zipIdx member
  have apart : ∀ placed ∈ items.zipIdx,
      Reads take (write placed.2 placed.1) (sound placed.1) (value placed.1) :=
    fun placed member => each _ (inside placed member) _
  have read := Reads.list s.order (by rwa [List.length_zipIdx]) (fun placed member => filled _ (inside placed member) _)
    apart
  have values : items.zipIdx.map (fun placed => value placed.1) = items.map value :=
    List.map_map.symm.trans (congrArg (List.map value) (List.zipIdx_map_fst 0 items))
  rw [List.length_zipIdx, values] at read
  refine read.of_iff ⟨fun holds item member => ?_, fun holds placed member => holds _ (inside placed member)⟩
  obtain ⟨place, bound, rfl⟩ := List.getElem_of_mem member
  exact holds (items[place], place) (List.mk_mem_zipIdx_iff_getElem?.mpr (List.getElem?_eq_getElem bound))

theorem reads_line (ring : Nat) {coords : List Coord} (fits : coords.length < Nat.pow 2 32) :
    Reads (takeLine (s.headerOf shape)) (s.lineBytes ring coords) True coords := by
  have filled : ∀ c ∈ coords, ∀ place, 0 < (s.coordBytes ring place c).length := by
    intro c _ place
    rw [Style.coordBytes, List.length_append, List.length_append, Style.doubleBytes, ByteOrder.bytesOf_length]
    omega
  have read := reads_placed s (s.coordBytes ring) (fun c => c) fits filled
    fun c _ place => Reads.always (takeCoord_coordBytes s shape ring place c)
  rw [List.map_id'] at read
  exact read.of_iff ⟨fun _ => trivial, fun _ _ _ => trivial⟩

theorem polygonOf_ringsOf {p : Polygon} (closes : ∀ ring ∈ p.rings, ringCloses ring) : polygonOf (s.ringsOf p) = p := by
  unfold Style.ringsOf
  split
  · rename_i empty
    simp only [Bool.and_eq_true, List.isEmpty_iff] at empty
    obtain ⟨⟨-, exterior⟩, interiors⟩ := empty
    cases p
    simp_all [polygonOf]
  · exact Polygon.closing_of_closes closes

theorem reads_polygon {p : Polygon} (counted : p.rings.length < Nat.pow 2 32)
    (fits : ∀ ring ∈ p.rings, ring.length < Nat.pow 2 32) (closes : ∀ ring ∈ p.rings, ringCloses ring) :
    Reads (takePolygon (s.headerOf shape)) (s.polygonBytes p) True p := by
  have written : s.ringsOf p = [] ∨ s.ringsOf p = p.rings := by
    unfold Style.ringsOf
    split
    · exact .inl rfl
    · exact .inr rfl
  have counted : (s.ringsOf p).length < Nat.pow 2 32 := by
    rcases written with none | all
    · rw [none]
      decide
    · rwa [all]
  have fits : ∀ ring ∈ s.ringsOf p, ring.length < Nat.pow 2 32 := by
    rcases written with none | all
    · rw [none]
      exact nofun
    · rwa [all]
  have rings := reads_placed s s.lineBytes (fun ring => ring) counted (fun ring _ place => countBytes_append_pos s _ _)
    fun ring member place => reads_line s shape place (fits ring member)
  have read := (rings.map polygonOf).of_iff ⟨fun _ => trivial, fun _ _ _ => trivial⟩
  rw [List.map_id', polygonOf_ringsOf s closes] at read
  rw [takePolygon_eq]
  exact read

end Pieces

def Intact (levels : Nat) (g : Geometry) : Prop :=
  ∀ header ∈ g.headers, header.1 < levels ∧ header.2.isEmptyPoint = false

theorem intact_iff (levels : Nat) (g : Geometry) : Intact levels g ↔
    0 < levels ∧ g.isEmptyPoint = false ∧ ∀ member ∈ g.members, Intact (levels - 1) member := by
  constructor
  · intro intact
    obtain ⟨positive, filled⟩ := intact _ (self_mem_headers g)
    refine ⟨positive, filled, fun member inside header h => ?_⟩
    obtain ⟨shallow, filled⟩ := intact _ (deeper_mem_headers inside h)
    exact ⟨Nat.lt_sub_of_add_lt shallow, filled⟩
  · rintro ⟨positive, filled, others⟩ header h
    rw [headers_eq, List.mem_cons, List.mem_flatMap] at h
    rcases h with rfl | ⟨member, inside, h⟩
    · exact ⟨positive, filled⟩
    · obtain ⟨below, within, rfl⟩ := List.mem_map.mp h
      obtain ⟨shallow, filled⟩ := others member inside below within
      exact ⟨Nat.add_lt_of_lt_sub shallow, filled⟩

section Whole

variable {levels : Nat} {g : Geometry} (s : Style)

theorem intact_leaf (leaf : g.members = []) {filled : Prop} (same : filled ↔ g.isEmptyPoint = false) :
    0 < levels ∧ filled ↔ Intact levels g := by
  rw [intact_iff, leaf, same]
  exact ⟨fun ⟨positive, filled⟩ => ⟨positive, filled, nofun⟩, fun ⟨positive, filled, _⟩ => ⟨positive, filled⟩⟩

theorem reads_renderPoint (c : Coord) :
    Reads (takeGeometry levels) (s.renderPoint c) (Intact levels (.point c)) (.point c) := by
  have body (depth : Nat) : Reads (takeBody depth (s.headerOf .point) .point) (s.coordBytes 0 0 c)
      (¬ (c.x.isNaN && c.y.isNaN) = true) (.point c) := reads_point s .point c
  exact (Reads.headed (takeHeader_header s .point) rfl body).of_iff (intact_leaf rfl (Bool.not_eq_true _ ▸ Iff.rfl))

theorem reads_renderLine {coords : List Coord} (fits : coords.length < Nat.pow 2 32) (leaf : g.members = [])
    (filled : g.isEmptyPoint = false) :
    Reads (takeGeometry levels) (s.renderLine coords) (Intact levels g) (.lineString coords) := by
  have body (depth : Nat) : Reads (takeBody depth (s.headerOf .lineString) .lineString) (s.lineBytes 0 coords) True
      (.lineString coords) := (reads_line s .lineString 0 fits).map Geometry.lineString
  exact (Reads.headed (takeHeader_header s .lineString) rfl body).of_iff
    (intact_leaf leaf ⟨fun _ => filled, fun _ => trivial⟩)

theorem reads_renderPolygon {p : Polygon} (counted : p.rings.length < Nat.pow 2 32)
    (fits : ∀ ring ∈ p.rings, ring.length < Nat.pow 2 32) (closes : ∀ ring ∈ p.rings, ringCloses ring)
    (leaf : g.members = []) (filled : g.isEmptyPoint = false) :
    Reads (takeGeometry levels) (s.renderPolygon p) (Intact levels g) (.polygon p) := by
  have body (depth : Nat) : Reads (takeBody depth (s.headerOf .polygon) .polygon) (s.polygonBytes p) True
      (.polygon p) := (reads_polygon s .polygon counted fits closes).map Geometry.polygon
  exact (Reads.headed (takeHeader_header s .polygon) rfl body).of_iff
    (intact_leaf leaf ⟨fun _ => filled, fun _ => trivial⟩)

theorem reads_shell {ring : List Coord} (short : ring.length + 1 < Nat.pow 2 32)
    (closes : ∀ closed ∈ (Polygon.closing ring []).rings, ringCloses closed) (leaf : g.members = [])
    (filled : g.isEmptyPoint = false) :
    Reads (takeGeometry levels) (s.renderPolygon (Polygon.closing ring [])) (Intact levels g)
      (.polygon (Polygon.closing ring [])) := by
  have single : (Polygon.closing ring []).rings = [closeRing ring] := rfl
  have one : 1 < Nat.pow 2 32 := Nat.lt_of_le_of_lt (Nat.le_add_left 1 ring.length) short
  refine reads_renderPolygon s one (fun closed inside => ?_) closes leaf filled
  rw [single, List.mem_singleton] at inside
  rw [inside]
  exact Nat.lt_of_le_of_lt (closeRing_length_le ring) short

theorem render_length_pos (styling : Styling) (g : Geometry) : 0 < (render styling g).length := by
  cases g <;> exact Nat.succ_pos _

theorem reads_container {α β : Type} (styling : Styling) (shape : Shape) (accept : Geometry → Except Fault α)
    (build : List α → Geometry) (form : β → Geometry) (value : β → α) {items : List β} {values : List α}
    (valued : items.map value = values)
    (built : ∀ depth h, takeBody depth h shape = (takeMembers h (takeGeometry depth) accept).map build)
    (fits : items.length < Nat.pow 2 32) (held : g.members = items.map form) (filled : g.isEmptyPoint = false)
    (accepted : ∀ item ∈ items, accept (form item).plain = .ok (value item))
    (each : ∀ depth styling, ∀ member ∈ g.members,
      Reads (takeGeometry depth) (render styling member) (Intact depth member) member.plain) :
    Reads (takeGeometry levels)
      (s.header shape ++ s.countBytes items.length ++
        items.zipIdx.flatMap fun (item, place) => render (styling.member place) (form item))
      (Intact levels g) (build values) := by
  subst valued
  have body (depth : Nat) : Reads (takeBody depth (s.headerOf shape) shape)
      (s.countBytes items.length ++ items.zipIdx.flatMap fun (item, place) => render (styling.member place) (form item))
      (∀ item ∈ items, Intact depth (form item)) (build (items.map value)) := by
    rw [built, takeMembers_eq]
    refine (reads_placed s (fun place item => render (styling.member place) (form item)) value fits
      (fun item _ place => render_length_pos _ _) fun item inside place => ?_).map build
    exact (each depth _ _ (held ▸ List.mem_map_of_mem inside)).accepting (accepted item inside)
  rw [List.append_assoc]
  refine (Reads.headed (takeHeader_header s shape) rfl body).of_iff ?_
  rw [intact_iff, held]
  constructor
  · rintro ⟨positive, others⟩
    exact ⟨positive, filled, List.forall_mem_map.mpr others⟩
  · rintro ⟨positive, -, others⟩
    exact ⟨positive, List.forall_mem_map.mp others⟩

end Whole

theorem reads_render (g : Geometry) (levels : Nat) (styling : Styling) (storable : g.Storable) :
    Reads (takeGeometry levels) (render styling g) (Intact levels g) g.plain := by
  -- Members are read with one level less and in styles of their own, so both are free in the induction.
  induction g using induction_members generalizing levels styling with
  | step g ih =>
    have each (depth : Nat) (styling : Styling) : ∀ member ∈ g.members,
        Reads (takeGeometry depth) (render styling member) (Intact depth member) member.plain :=
      fun member inside => ih member inside depth styling (storable.member inside)
    have counted : ∀ count ∈ g.counts, count < Nat.pow 2 32 := storable.counted _ (self_mem_headers g)
    have closed : ∀ ring ∈ g.plain.rings, ringCloses ring := storable.closed _ (self_mem_headers g.plain)
    cases g with
    | point c => exact reads_renderPoint _ c
    | lineString coords => exact reads_renderLine _ (counted _ List.mem_cons_self) rfl rfl
    | line a b => exact reads_renderLine _ (show [a, b].length < Nat.pow 2 32 by simp) rfl rfl
    | polygon p =>
      refine reads_renderPolygon _ (counted _ List.mem_cons_self) (fun ring inside => ?_) closed rfl rfl
      exact counted _ (List.mem_cons_of_mem _ (List.mem_map_of_mem inside))
    | rect r => exact reads_shell _ (show r.ring.length + 1 < Nat.pow 2 32 by simp [Rect.ring]) closed rfl rfl
    | triangle a b c =>
      exact reads_shell _ (show (triangleRing a b c).length + 1 < Nat.pow 2 32 by simp [triangleRing]) closed rfl rfl
    | multiPoint points =>
      exact reads_container _ styling .multiPoint asPoint .multiPoint .point (fun c => c) (List.map_id' points)
        (fun _ _ => rfl) (counted _ List.mem_cons_self) rfl rfl (fun _ _ => rfl) each
    | multiLineString lines =>
      exact reads_container _ styling .multiLineString asLineString .multiLineString .lineString (fun line => line)
        (List.map_id' lines) (fun _ _ => rfl) (counted _ List.mem_cons_self) rfl rfl (fun _ _ => rfl) each
    | multiPolygon polygons =>
      exact reads_container _ styling .multiPolygon asPolygon .multiPolygon .polygon (fun p => p)
        (List.map_id' polygons) (fun _ _ => rfl) (counted _ List.mem_cons_self) rfl rfl (fun _ _ => rfl) each
    | geometryCollection members =>
      rw [plain, plainMembers_eq, render, renderMembers_eq]
      exact reads_container _ styling .geometryCollection (fun g => .ok g) .geometryCollection (fun member => member)
        plain rfl (fun _ _ => rfl) (counted _ List.mem_cons_self) (List.map_id' members).symm rfl (fun _ _ => rfl) each

theorem plain_of_typed (g : Geometry) (typed : ∀ header ∈ g.headers, header.2.kind?.isSome) : g.plain = g := by
  induction g using induction_members with
  | step g ih =>
    have own : g.kind?.isSome := typed _ (self_mem_headers g)
    have same : ∀ member ∈ g.members, member.plain = member := fun member inside =>
      ih member inside fun header h => typed (deeper header) (deeper_mem_headers inside h)
    cases g with
    | geometryCollection members =>
      rw [plain, plainMembers_eq]
      exact congrArg _ ((List.map_congr_left same).trans (List.map_id' members))
    | point | lineString | polygon | multiPoint | multiLineString | multiPolygon => rfl
    | line | rect | triangle => cases own

/--
Whatever byte order, reference system and further ordinates are chosen for each of its headers, a geometry that is nested
at most 32 containers deep and has no empty point is read as it is.
-/
theorem every_dialect_is_read (g : Geometry) (styling : Styling)
    (typed : ∀ header ∈ g.headers, header.2.kind?.isSome) (storable : g.Storable)
    (shallow : ∀ header ∈ g.headers, header.1 ≤ maxDepth)
    (filled : ∀ header ∈ g.headers, header.2.isEmptyPoint = false) :
    Decode.readWkb (render styling g) = .ok g := by
  have intact : Intact (maxDepth + 1) g := fun header h => ⟨Nat.lt_succ_of_le (shallow header h), filled header h⟩
  have taken := (reads_render g (maxDepth + 1) styling storable).ok intact []
  rw [List.append_nil, plain_of_typed g typed] at taken
  rw [Decode.readWkb, read, taken]
  rfl

section Archipelago

def archipelago : Geometry := .geometryCollection
  [.multiPoint [⟨.nan, .two⟩, ⟨.nan, .zero⟩], .polygon ⟨[], []⟩,
    .geometryCollection [.multiPolygon [⟨[⟨.zero, .zero⟩, ⟨.two, .zero⟩, ⟨.two, .two⟩, ⟨.zero, .zero⟩],
      [[⟨.two, .zero⟩, ⟨.two, .two⟩, ⟨.two, .zero⟩]]⟩], .multiLineString [[⟨.two, .two⟩], []]]]

def surveyed : Styling := fun path => {
  order := if path.sum % 2 = 0 then .bigEndian else .littleEndian
  srid := if path.length % 2 = 0 then some 4326 else none
  ordinates := match path.sum % 4 with
    | 0 => .xyzm
    | 1 => .xym
    | 2 => .xyz
    | _ => .xy
  marking := if path.length % 3 = 0 then .flags else .thousands
  z := fun ring place => ⟨UInt64.ofNat (ring * 256 + place)⟩
  m := fun _ _ => .nan
  omitsEmptyRing := path = [1] }

theorem surveyed_archipelago_is_read :
    archipelago.Storable ∧ Decode.readWkb (render surveyed archipelago) = .ok archipelago := by
  have storable : archipelago.Storable := ⟨by decide, by decide⟩
  exact ⟨storable, every_dialect_is_read archipelago surveyed (by decide) storable (by decide) (by decide)⟩

end Archipelago

end FeatureLayers.Wkb
