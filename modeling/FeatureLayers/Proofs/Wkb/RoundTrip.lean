import FeatureLayers.Proofs.Wkb.Dialect
import FeatureLayers.Wkb.Writer

namespace FeatureLayers.Wkb

open FeatureLayers.Geometry

def plainStyle : Style where
  order := .littleEndian
  srid := none
  ordinates := .xy
  marking := .flags
  z := fun _ _ => .zero
  m := fun _ _ => .zero
  omitsEmptyRing := false

theorem zipIdx_flatMap {α β : Type} (items : List α) (place : Nat) (f : α → List β) :
    (items.zipIdx place).flatMap (fun placed => f placed.1) = items.flatMap f := by
  rw [← List.flatMap_map, List.zipIdx_map_fst]

theorem coordBytes_plainStyle (ring place : Nat) (c : Coord) : plainStyle.coordBytes ring place c = coordBytes c :=
  List.append_nil _

theorem lineBytes_plainStyle (ring : Nat) (coords : List Coord) : plainStyle.lineBytes ring coords = lineBytes coords := by
  simp only [Style.lineBytes, coordBytes_plainStyle, zipIdx_flatMap]
  rfl

theorem polygonBytes_plainStyle (p : Polygon) : plainStyle.polygonBytes p = polygonBytes p := by
  have rings : plainStyle.ringsOf p = p.rings := rfl
  simp only [Style.polygonBytes, rings, lineBytes_plainStyle, zipIdx_flatMap]
  rfl

theorem header_plainStyle (shape : Shape) : plainStyle.header shape = header shape := by
  cases shape <;> rfl

theorem renderPoint_plainStyle : plainStyle.renderPoint = writePoint := by
  funext c
  rw [Style.renderPoint, header_plainStyle, coordBytes_plainStyle, writePoint]

theorem renderLine_plainStyle : plainStyle.renderLine = writeLine := by
  funext coords
  rw [Style.renderLine, header_plainStyle, lineBytes_plainStyle, writeLine]

theorem renderPolygon_plainStyle : plainStyle.renderPolygon = writePolygon := by
  funext p
  rw [Style.renderPolygon, header_plainStyle, polygonBytes_plainStyle, writePolygon]

theorem writeMembers_eq (members : List Geometry) : writeMembers members = members.flatMap write := by
  induction members with
  | nil => rfl
  | cons g rest ih => rw [writeMembers, ih, List.flatMap_cons]

theorem render_plainStyle (g : Geometry) : render (fun _ => plainStyle) g = write g := by
  induction g using induction_members with
  | step g ih =>
    cases g with
    | point c => exact congrFun renderPoint_plainStyle c
    | line a b => exact congrFun renderLine_plainStyle [a, b]
    | lineString coords => exact congrFun renderLine_plainStyle coords
    | polygon p => exact congrFun renderPolygon_plainStyle p
    | rect r => exact congrFun renderPolygon_plainStyle r.toPolygon
    | triangle a b c => exact congrFun renderPolygon_plainStyle (Polygon.closing (triangleRing a b c) [])
    | multiPoint points =>
      simp only [render, write, renderPoint_plainStyle, zipIdx_flatMap, header_plainStyle]
      rfl
    | multiLineString lines =>
      simp only [render, write, renderLine_plainStyle, zipIdx_flatMap, header_plainStyle]
      rfl
    | multiPolygon polygons =>
      simp only [render, write, renderPolygon_plainStyle, zipIdx_flatMap, header_plainStyle]
      rfl
    | geometryCollection members =>
      have same : members.flatMap (render fun _ => plainStyle) = members.flatMap write := congrArg List.flatten (List.map_congr_left ih)
      rw [render, renderMembers_eq, header_plainStyle, write, writeMembers_eq, ← same]
      exact congrArg _ (zipIdx_flatMap members 0 (render fun _ => plainStyle))

theorem reads_geometry (g : Geometry) (levels : Nat) (storable : g.Storable) :
    Reads (takeGeometry levels) (write g) (Intact levels g) g.plain :=
  render_plainStyle g ▸ reads_render g levels (fun _ => plainStyle) storable

section Harbour

def origin : Coord := ⟨.zero, .zero⟩

def northEast : Coord := ⟨.two, .two⟩

def southEast : Coord := ⟨.two, .zero⟩

end Harbour

/--
The count of a polygon's rings has 32 bits. With one ring more than they can count it starts again at zero, and the rings
are left over.
-/
theorem read_write_uncounted {p : Polygon} (many : p.rings.length = Nat.pow 2 32) :
    Decode.readWkb (write (.polygon p)) = .error (.wkb (.trailing (p.rings.flatMap lineBytes).length)) := by
  have overflow : write (.polygon p) = header .polygon ++ countBytes 0 ++ p.rings.flatMap lineBytes := by
    have restarted : countBytes p.rings.length = countBytes 0 := by
      rw [many]
      decide
    rw [← restarted, List.append_assoc]
    rfl
  have opens := takeHeader_header plainStyle .polygon
  rw [header_plainStyle] at opens
  have unringed (depth : Nat) : Reads (takeBody depth (plainStyle.headerOf .polygon) .polygon) (countBytes 0) True
      (.polygon ⟨[], []⟩) := by
    refine Reads.always fun rest => ?_
    have none : takeCount .littleEndian (countBytes 0 ++ rest) = .ok (0, rest) :=
      takeCount_bytesOf .littleEndian (by decide) (Nat.zero_le _)
    simp only [takeBody, takePolygon, Taking.map, Style.headerOf, plainStyle, none, Bind.bind, Except.bind, takeMany]
    rfl
  have taken := (Reads.headed opens rfl unringed).ok ⟨Nat.succ_pos maxDepth, trivial⟩ (p.rings.flatMap lineBytes)
  have filled : ∀ ring ∈ p.rings, 0 < (lineBytes ring).length := by
    intro ring _
    rw [lineBytes, List.length_append, countBytes, bytesOfNat_length]
    omega
  have remain : (p.rings.flatMap lineBytes).isEmpty = false := by
    have atLeast := length_le_flatMap filled
    rw [many] at atLeast
    rw [List.isEmpty_eq_false_iff, ← List.length_pos_iff]
    exact Nat.lt_of_lt_of_le (by decide) atLeast
  rw [overflow, Decode.readWkb, read, taken]
  simp only [Bind.bind, Except.bind, remain]
  rfl

end FeatureLayers.Wkb
