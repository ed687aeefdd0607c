import FeatureLayers.Cell.Grid
import FeatureLayers.Geometry.Basic

namespace FeatureLayers.Cell

structure Plane where
  x : Float
  y : Float

structure Sphere where
  lat : Float
  lng : Float

def pi : Float := 3.14159265358979323846

def tiny : Float := 0.0000000000000001

def sinSixty : Float := 0.8660254037844386467637231707529361834714

def inverseRootSeven : Float := 0.37796447300922722721451653623418006081576

def faceCenters : List Sphere := [
  ⟨0.803582649718989942, 1.248397419617396099⟩, ⟨1.307747883455638156, 2.536945009877921159⟩,
  ⟨1.054751253523952054, -1.347517358900396623⟩, ⟨0.600191595538186799, -0.450603909469755746⟩,
  ⟨0.491715428198773866, 0.401988202911306943⟩, ⟨0.172745327415618701, 1.678146885280433686⟩,
  ⟨0.605929321571350690, 2.953923329812411617⟩, ⟨0.427370518328979641, -1.888876200336285401⟩,
  ⟨-0.079066118549212831, -0.733429513380867741⟩, ⟨-0.230961644455383637, 0.506495587332349035⟩,
  ⟨0.079066118549212831, 2.408163140208925497⟩, ⟨0.230961644455383637, -2.635097066257444203⟩,
  ⟨-0.172745327415618701, -1.463445768309359553⟩, ⟨-0.605929321571350690, -0.187669323777381622⟩,
  ⟨-0.427370518328979641, 1.252716453253507838⟩, ⟨-0.600191595538186799, 2.690988744120037492⟩,
  ⟨-0.491715428198773866, -2.739604450678486295⟩, ⟨-0.803582649718989942, -1.893195233972397139⟩,
  ⟨-1.307747883455638156, -0.604647643711872080⟩, ⟨-1.054751253523952054, 1.794075294689396615⟩]

def faceAzimuths : List Float := [
  5.619958268523939882, 5.760339081714187279, 0.780213654393430055, 0.430469363979999913, 6.130269123335111400,
  2.692877706530642877, 2.982963003477243874, 3.532912002790141181, 3.494305004259568154, 3.003214169499538391,
  5.930472956509811562, 0.138378484090254847, 0.448714947059150361, 0.158629650112549365, 5.891865957979238535,
  2.711123289609793325, 3.294508837434268316, 3.804819692245439833, 3.664438879055192436, 2.361378999196363184]

def faceCenter (face : Nat) : Sphere := faceCenters.getD face ⟨0, 0⟩

def Ijk.toPlane (a : Ijk) : Plane :=
  let i := Float.ofInt (a.i - a.k)
  let j := Float.ofInt (a.j - a.k)
  ⟨i - 0.5 * j, j * sinSixty⟩

def positiveAngle (a : Float) : Float :=
  let b := if a < 0 then a + 2 * pi else a
  if b ≥ 2 * pi then b - 2 * pi else b

def wrapLongitude (lng : Float) : Float :=
  if lng > pi then lng - 2 * pi else if lng < -pi then lng + 2 * pi else lng

def clampUnit (v : Float) : Float := if v > 1 then 1 else if v < -1 then -1 else v

def snapToPole (p : Sphere) : Sphere :=
  if Float.abs (p.lat - pi / 2) < tiny then ⟨pi / 2, 0⟩
  else if Float.abs (p.lat + pi / 2) < tiny then ⟨-pi / 2, 0⟩
  else p

def travel (start : Sphere) (azimuth distance : Float) : Sphere :=
  let azimuth := positiveAngle azimuth
  if distance < tiny then start
  else if azimuth < tiny then snapToPole ⟨start.lat + distance, wrapLongitude start.lng⟩
  else if Float.abs (azimuth - pi) < tiny then snapToPole ⟨start.lat - distance, wrapLongitude start.lng⟩
  else
    let sinLat := clampUnit
      (Float.sin start.lat * Float.cos distance + Float.cos start.lat * Float.sin distance * Float.cos azimuth)
    let lat := Float.asin sinLat
    let sinLng := clampUnit (Float.sin azimuth * Float.sin distance / Float.cos lat)
    let cosLng := clampUnit
      ((Float.cos distance - Float.sin start.lat * Float.sin lat) / Float.cos start.lat / Float.cos lat)
    snapToPole ⟨lat, wrapLongitude (start.lng + Float.atan2 sinLng cosLng)⟩

def shrink : Nat → Float → Float
  | 0, r => r
  | n + 1, r => shrink n (r * inverseRootSeven)

def Plane.toSphere (p : Plane) (face resolution : Nat) : Sphere :=
  let r := Float.sqrt (p.x * p.x + p.y * p.y)
  if r < tiny then faceCenter face
  else
    let theta := Float.atan2 p.y p.x
    let distance := Float.atan (shrink resolution r / 3 * 0.38196601125010500003)
    travel (faceCenter face) (positiveAngle (faceAzimuths.getD face 0 - theta)) distance

def Plane.crossing (p q r s : Plane) : Plane :=
  let d1 : Plane := ⟨q.x - p.x, q.y - p.y⟩
  let d2 : Plane := ⟨s.x - r.x, s.y - r.y⟩
  let t := (d2.x * (p.y - r.y) - d2.y * (p.x - r.x)) / (-d2.x * d1.y + d1.x * d2.y)
  ⟨p.x + t * d1.x, p.y + t * d1.y⟩

def Plane.near (p q : Plane) : Bool :=
  Float.abs (p.x - q.x) < 1.1920929e-7 && Float.abs (p.y - q.y) < 1.1920929e-7

def faceEdge (resolution : Nat) (q : Quadrant) : Plane × Plane :=
  let side := Float.ofInt (edgeTotal resolution)
  let v0 : Plane := ⟨3 * side, 0⟩
  let v1 : Plane := ⟨-1.5 * side, 3 * sinSixty * side⟩
  let v2 : Plane := ⟨-1.5 * side, -3 * sinSixty * side⟩
  match q with
  | .ij => (v0, v1)
  | .jk => (v1, v2)
  | .ki => (v2, v0)

def evenCorners : List Ijk := [⟨2, 1, 0⟩, ⟨1, 2, 0⟩, ⟨0, 2, 1⟩, ⟨0, 1, 2⟩, ⟨1, 0, 2⟩, ⟨2, 0, 1⟩]

def turnedCorners : List Ijk := [⟨5, 4, 0⟩, ⟨1, 5, 0⟩, ⟨0, 5, 4⟩, ⟨0, 1, 5⟩, ⟨4, 0, 5⟩, ⟨5, 0, 1⟩]

/-- The corners on the substrate grid of the home face, and that grid's even resolution. -/
def corners (c : FaceIjk) (resolution count : Nat) : List FaceIjk × Nat :=
  let turned := isTurned resolution
  let middle := c.coord.downThree.downThreeClockwise
  let middle := if turned then middle.downSevenClockwise else middle
  let offsets := (if turned then turnedCorners else evenCorners).take count
  (offsets.map fun offset => ⟨c.face, (middle.add offset).normalize⟩, if turned then resolution + 1 else resolution)

def FaceIjk.toSphere (p : FaceIjk) (resolution : Nat) : Sphere := p.coord.toPlane.toSphere p.face resolution

structure Settled where
  unsettled : FaceIjk
  settled : FaceIjk
  overage : Overage

def settleCorner (resolution : Nat) (p : FaceIjk) : Settled :=
  let (moved, overage) := p.adjust resolution false true
  ⟨p, moved, overage⟩

/-- The extra corner between two corners that came to lie on different faces. -/
def hexagonCrossing (home : Nat) (resolution : Nat) (last next : Settled) : List Sphere :=
  if next.settled.face = last.settled.face || last.overage = .edge then []
  else
    let p := last.unsettled.coord.toPlane
    let q := next.unsettled.coord.toPlane
    let other := if last.settled.face = home then next.settled.face else last.settled.face
    let (a, b) := faceEdge resolution (quadrantTowards home other)
    let crossing := Plane.crossing p q a b
    if p.near crossing || q.near crossing then [] else [crossing.toSphere home resolution]

def aroundHexagon (home resolution : Nat) (turned : Bool) (first : Settled) : List Settled → List Sphere
  | [] => []
  | [last] =>
    last.settled.toSphere resolution :: if turned then hexagonCrossing home resolution last first else []
  | c :: next :: rest =>
    c.settled.toSphere resolution ::
      (if turned then hexagonCrossing home resolution c next else []) ++
      aroundHexagon home resolution turned first (next :: rest)

def hexagonBoundary (c : FaceIjk) (resolution : Nat) : List Sphere :=
  let (points, evenResolution) := corners c resolution 6
  match points.map (settleCorner evenResolution) with
  | [] => []
  | first :: rest => aroundHexagon c.face evenResolution (isTurned resolution) first (first :: rest)

def settlePentagonCorner (resolution : Nat) : Nat → FaceIjk → FaceIjk
  | 0, p => p
  | fuel + 1, p => match p.adjust resolution false true with
    | (moved, .newFace) => settlePentagonCorner resolution fuel moved
    | (moved, _) => moved

/-- Every edge of a turned pentagon crosses an edge of the icosahedron. -/
def pentagonCrossing (resolution : Nat) (last next : FaceIjk) : Sphere :=
  let p := last.coord.toPlane
  let back := faceStep next.face (quadrantTowards next.face last.face)
  let carried := next.carry back (3 * unitScale resolution)
  let (a, b) := faceEdge resolution (quadrantTowards carried.face next.face)
  (Plane.crossing p carried.coord.toPlane a b).toSphere carried.face resolution

def aroundPentagon (resolution : Nat) (turned : Bool) (first : FaceIjk) : List FaceIjk → List Sphere
  | [] => []
  | [last] => last.toSphere resolution :: if turned then [pentagonCrossing resolution last first] else []
  | c :: next :: rest =>
    c.toSphere resolution :: (if turned then [pentagonCrossing resolution c next] else []) ++
      aroundPentagon resolution turned first (next :: rest)

def pentagonBoundary (c : FaceIjk) (resolution : Nat) : List Sphere :=
  let (points, evenResolution) := corners c resolution 5
  match points.map (settlePentagonCorner evenResolution 12) with
  | [] => []
  | first :: rest => aroundPentagon evenResolution (isTurned resolution) first (first :: rest)

def Index.boundary (c : Index) : List Sphere :=
  if c.isPentagon then pentagonBoundary (center c) c.resolution else hexagonBoundary (center c) c.resolution

def degrees (radians : Float) : Double := Double.ofFloat (radians * (180 / pi))

def Index.polygon (c : Index) : Polygon :=
  Polygon.closing (c.boundary.map fun p => ⟨degrees p.lng, degrees p.lat⟩) []

end FeatureLayers.Cell
