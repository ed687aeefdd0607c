import FeatureLayers.Cell.Index

namespace FeatureLayers.Cell

structure Ijk where
  i : Int
  j : Int
  k : Int
deriving DecidableEq, Repr, Inhabited

namespace Ijk

def add (a b : Ijk) : Ijk := ⟨a.i + b.i, a.j + b.j, a.k + b.k⟩

def sub (a b : Ijk) : Ijk := ⟨a.i - b.i, a.j - b.j, a.k - b.k⟩

def scale (n : Int) (a : Ijk) : Ijk := ⟨n * a.i, n * a.j, n * a.k⟩

def normalize (a : Ijk) : Ijk :=
  let least := min a.i (min a.j a.k)
  ⟨a.i - least, a.j - least, a.k - least⟩

def combine (a iVec jVec kVec : Ijk) : Ijk :=
  normalize (((iVec.scale a.i).add (jVec.scale a.j)).add (kVec.scale a.k))

def downSeven (a : Ijk) : Ijk := a.combine ⟨3, 0, 1⟩ ⟨1, 3, 0⟩ ⟨0, 1, 3⟩

def downSevenClockwise (a : Ijk) : Ijk := a.combine ⟨3, 1, 0⟩ ⟨0, 3, 1⟩ ⟨1, 0, 3⟩

def downThree (a : Ijk) : Ijk := a.combine ⟨2, 0, 1⟩ ⟨1, 2, 0⟩ ⟨0, 1, 2⟩

def downThreeClockwise (a : Ijk) : Ijk := a.combine ⟨2, 1, 0⟩ ⟨0, 2, 1⟩ ⟨1, 0, 2⟩

/-- The nearest integer to a seventh, a half away from zero; sevenths have no halves. -/
def roundSeventh (n : Int) : Int := (2 * n + 7).fdiv 14

def upSevenClockwise (a : Ijk) : Ijk :=
  let i := a.i - a.k
  let j := a.j - a.k
  normalize ⟨roundSeventh (2 * i + j), roundSeventh (3 * j - i), 0⟩

def rotate (a : Ijk) : Ijk := a.combine ⟨1, 1, 0⟩ ⟨0, 1, 1⟩ ⟨1, 0, 1⟩

def rotateClockwise (a : Ijk) : Ijk := a.combine ⟨1, 0, 1⟩ ⟨1, 1, 0⟩ ⟨0, 1, 1⟩

def rotateTimes : Nat → Ijk → Ijk
  | 0, a => a
  | n + 1, a => rotateTimes n a.rotate

def ofDigit : Nat → Ijk
  | 1 => ⟨0, 0, 1⟩
  | 2 => ⟨0, 1, 0⟩
  | 3 => ⟨0, 1, 1⟩
  | 4 => ⟨1, 0, 0⟩
  | 5 => ⟨1, 0, 1⟩
  | 6 => ⟨1, 1, 0⟩
  | _ => ⟨0, 0, 0⟩

def step (a : Ijk) (digit : Nat) : Ijk := normalize (a.add (ofDigit digit))

def total (a : Ijk) : Int := a.i + a.j + a.k

end Ijk

structure FaceIjk where
  face : Nat
  coord : Ijk
deriving DecidableEq, Repr, Inhabited

inductive Quadrant
  | ij
  | ki
  | jk
deriving DecidableEq, Repr

structure FaceStep where
  face : Nat
  translate : Ijk
  turns : Nat
deriving Repr, Inhabited

def polarStep (face : Nat) : Quadrant → FaceStep
  | .ij => ⟨face, ⟨2, 0, 2⟩, 1⟩
  | .ki => ⟨face, ⟨2, 2, 0⟩, 5⟩
  | .jk => ⟨face, ⟨0, 2, 2⟩, 3⟩

def equatorialStep (face : Nat) : Quadrant → FaceStep
  | .ij => ⟨face, ⟨2, 2, 0⟩, 3⟩
  | .ki => ⟨face, ⟨2, 0, 2⟩, 3⟩
  | .jk => ⟨face, ⟨0, 2, 2⟩, 3⟩

def neighbourFaces : List (Nat × Nat × Nat) := [
  (4, 1, 5), (0, 2, 6), (1, 3, 7), (2, 4, 8), (3, 0, 9),
  (10, 14, 0), (11, 10, 1), (12, 11, 2), (13, 12, 3), (14, 13, 4),
  (5, 6, 15), (6, 7, 16), (7, 8, 17), (8, 9, 18), (9, 5, 19),
  (16, 19, 10), (17, 15, 11), (18, 16, 12), (19, 17, 13), (15, 18, 14)]

def neighbourFace (face : Nat) (q : Quadrant) : Nat :=
  let (ij, ki, jk) := neighbourFaces.getD face (0, 0, 0)
  match q with
  | .ij => ij
  | .ki => ki
  | .jk => jk

/-- The five faces around each pole meet their neighbours another way than the ten in between. -/
def faceStep (face : Nat) (q : Quadrant) : FaceStep :=
  if face < 5 ∨ 15 ≤ face then polarStep (neighbourFace face q) q else equatorialStep (neighbourFace face q) q

def quadrantTowards (face other : Nat) : Quadrant :=
  if neighbourFace face .ij = other then .ij
  else if neighbourFace face .jk = other then .jk
  else .ki

def baseCells : List FaceIjk := [
  ⟨1, ⟨1, 0, 0⟩⟩, ⟨2, ⟨1, 1, 0⟩⟩, ⟨1, ⟨0, 0, 0⟩⟩, ⟨2, ⟨1, 0, 0⟩⟩, ⟨0, ⟨2, 0, 0⟩⟩, ⟨1, ⟨1, 1, 0⟩⟩,
  ⟨1, ⟨0, 0, 1⟩⟩, ⟨2, ⟨0, 0, 0⟩⟩, ⟨0, ⟨1, 0, 0⟩⟩, ⟨2, ⟨0, 1, 0⟩⟩, ⟨1, ⟨0, 1, 0⟩⟩, ⟨1, ⟨0, 1, 1⟩⟩,
  ⟨3, ⟨1, 0, 0⟩⟩, ⟨3, ⟨1, 1, 0⟩⟩, ⟨11, ⟨2, 0, 0⟩⟩, ⟨4, ⟨1, 0, 0⟩⟩, ⟨0, ⟨0, 0, 0⟩⟩, ⟨6, ⟨0, 1, 0⟩⟩,
  ⟨0, ⟨0, 0, 1⟩⟩, ⟨2, ⟨0, 1, 1⟩⟩, ⟨7, ⟨0, 0, 1⟩⟩, ⟨2, ⟨0, 0, 1⟩⟩, ⟨0, ⟨1, 1, 0⟩⟩, ⟨6, ⟨0, 0, 1⟩⟩,
  ⟨10, ⟨2, 0, 0⟩⟩, ⟨6, ⟨0, 0, 0⟩⟩, ⟨3, ⟨0, 0, 0⟩⟩, ⟨11, ⟨1, 0, 0⟩⟩, ⟨4, ⟨1, 1, 0⟩⟩, ⟨3, ⟨0, 1, 0⟩⟩,
  ⟨0, ⟨0, 1, 1⟩⟩, ⟨4, ⟨0, 0, 0⟩⟩, ⟨5, ⟨0, 1, 0⟩⟩, ⟨0, ⟨0, 1, 0⟩⟩, ⟨7, ⟨0, 1, 0⟩⟩, ⟨11, ⟨1, 1, 0⟩⟩,
  ⟨7, ⟨0, 0, 0⟩⟩, ⟨10, ⟨1, 0, 0⟩⟩, ⟨12, ⟨2, 0, 0⟩⟩, ⟨6, ⟨1, 0, 1⟩⟩, ⟨7, ⟨1, 0, 1⟩⟩, ⟨4, ⟨0, 0, 1⟩⟩,
  ⟨3, ⟨0, 0, 1⟩⟩, ⟨3, ⟨0, 1, 1⟩⟩, ⟨4, ⟨0, 1, 0⟩⟩, ⟨6, ⟨1, 0, 0⟩⟩, ⟨11, ⟨0, 0, 0⟩⟩, ⟨8, ⟨0, 0, 1⟩⟩,
  ⟨5, ⟨0, 0, 1⟩⟩, ⟨14, ⟨2, 0, 0⟩⟩, ⟨5, ⟨0, 0, 0⟩⟩, ⟨12, ⟨1, 0, 0⟩⟩, ⟨10, ⟨1, 1, 0⟩⟩, ⟨4, ⟨0, 1, 1⟩⟩,
  ⟨12, ⟨1, 1, 0⟩⟩, ⟨7, ⟨1, 0, 0⟩⟩, ⟨11, ⟨0, 1, 0⟩⟩, ⟨10, ⟨0, 0, 0⟩⟩, ⟨13, ⟨2, 0, 0⟩⟩, ⟨10, ⟨0, 0, 1⟩⟩,
  ⟨11, ⟨0, 0, 1⟩⟩, ⟨9, ⟨0, 1, 0⟩⟩, ⟨8, ⟨0, 1, 0⟩⟩, ⟨6, ⟨2, 0, 0⟩⟩, ⟨8, ⟨0, 0, 0⟩⟩, ⟨9, ⟨0, 0, 1⟩⟩,
  ⟨14, ⟨1, 0, 0⟩⟩, ⟨5, ⟨1, 0, 1⟩⟩, ⟨16, ⟨0, 1, 1⟩⟩, ⟨8, ⟨1, 0, 1⟩⟩, ⟨5, ⟨1, 0, 0⟩⟩, ⟨12, ⟨0, 0, 0⟩⟩,
  ⟨7, ⟨2, 0, 0⟩⟩, ⟨12, ⟨0, 1, 0⟩⟩, ⟨10, ⟨0, 1, 0⟩⟩, ⟨9, ⟨0, 0, 0⟩⟩, ⟨13, ⟨1, 0, 0⟩⟩, ⟨16, ⟨0, 0, 1⟩⟩,
  ⟨15, ⟨0, 1, 1⟩⟩, ⟨15, ⟨0, 1, 0⟩⟩, ⟨16, ⟨0, 1, 0⟩⟩, ⟨14, ⟨1, 1, 0⟩⟩, ⟨13, ⟨1, 1, 0⟩⟩, ⟨5, ⟨2, 0, 0⟩⟩,
  ⟨8, ⟨1, 0, 0⟩⟩, ⟨14, ⟨0, 0, 0⟩⟩, ⟨9, ⟨1, 0, 1⟩⟩, ⟨14, ⟨0, 0, 1⟩⟩, ⟨17, ⟨0, 0, 1⟩⟩, ⟨12, ⟨0, 0, 1⟩⟩,
  ⟨16, ⟨0, 0, 0⟩⟩, ⟨17, ⟨0, 1, 1⟩⟩, ⟨15, ⟨0, 0, 1⟩⟩, ⟨16, ⟨1, 0, 1⟩⟩, ⟨9, ⟨1, 0, 0⟩⟩, ⟨15, ⟨0, 0, 0⟩⟩,
  ⟨13, ⟨0, 0, 0⟩⟩, ⟨8, ⟨2, 0, 0⟩⟩, ⟨13, ⟨0, 1, 0⟩⟩, ⟨17, ⟨1, 0, 1⟩⟩, ⟨19, ⟨0, 1, 0⟩⟩, ⟨14, ⟨0, 1, 0⟩⟩,
  ⟨19, ⟨0, 1, 1⟩⟩, ⟨17, ⟨0, 1, 0⟩⟩, ⟨13, ⟨0, 0, 1⟩⟩, ⟨17, ⟨0, 0, 0⟩⟩, ⟨16, ⟨1, 0, 0⟩⟩, ⟨9, ⟨2, 0, 0⟩⟩,
  ⟨15, ⟨1, 0, 1⟩⟩, ⟨15, ⟨1, 0, 0⟩⟩, ⟨18, ⟨0, 1, 1⟩⟩, ⟨18, ⟨0, 0, 1⟩⟩, ⟨19, ⟨0, 0, 1⟩⟩, ⟨17, ⟨1, 0, 0⟩⟩,
  ⟨19, ⟨0, 0, 0⟩⟩, ⟨18, ⟨0, 1, 0⟩⟩, ⟨18, ⟨1, 0, 1⟩⟩, ⟨19, ⟨2, 0, 0⟩⟩, ⟨19, ⟨1, 0, 0⟩⟩, ⟨18, ⟨0, 0, 0⟩⟩,
  ⟨19, ⟨1, 0, 1⟩⟩, ⟨18, ⟨1, 0, 0⟩⟩]

def isTurned (resolution : Nat) : Bool := resolution % 2 = 1

def unitScale (resolution : Nat) : Int := Nat.pow 7 (resolution / 2)

def edgeTotal (resolution : Nat) : Int := 2 * unitScale resolution

inductive Overage
  | none
  | edge
  | newFace
deriving DecidableEq, Repr

def FaceIjk.carry (p : FaceIjk) (s : FaceStep) (unit : Int) : FaceIjk :=
  ⟨s.face, ((Ijk.rotateTimes s.turns p.coord).add (Ijk.scale unit s.translate)).normalize⟩

/-- Turns a position around the corner of a face to make up for the direction that a pentagon lacks. -/
def turnAroundCorner (corner : Int) (a : Ijk) : Ijk :=
  let origin : Ijk := ⟨corner, 0, 0⟩
  (a.sub origin).rotateClockwise.add origin

/--
Moves a position past an edge of its face to the face beyond. A substrate grid is three times finer and knows positions
on the edge itself.
-/
def FaceIjk.adjust (p : FaceIjk) (resolution : Nat) (missingDirection substrate : Bool) : FaceIjk × Overage :=
  let factor : Int := if substrate then 3 else 1
  let limit := factor * edgeTotal resolution
  let total := p.coord.total
  if substrate && total = limit then (p, .edge)
  else if total ≤ limit then (p, .none)
  else
    let quadrant : Quadrant := if 0 < p.coord.k then (if 0 < p.coord.j then .jk else .ki) else .ij
    let coord := if quadrant = .ki && missingDirection then turnAroundCorner limit p.coord else p.coord
    let moved := FaceIjk.carry ⟨p.face, coord⟩ (faceStep p.face quadrant) (factor * unitScale resolution)
    (moved, if substrate && moved.coord.total = limit then .edge else .newFace)

def FaceIjk.settle (resolution : Nat) : Nat → FaceIjk → FaceIjk
  | 0, p => p
  | fuel + 1, p => match p.adjust resolution false false with
    | (moved, .none) => moved
    | (moved, _) => moved.settle resolution fuel

def clockwiseDigit : Nat → Nat
  | 1 => 3
  | 3 => 2
  | 2 => 6
  | 6 => 4
  | 4 => 5
  | 5 => 1
  | d => d

def walk (start : Ijk) (digits : List Nat) : Ijk :=
  (digits.foldl (fun (state : Ijk × Nat) digit =>
    let finer := if isTurned state.2 then state.1.downSeven else state.1.downSevenClockwise
    (finer.step digit, state.2 + 1)) (start, 1)).1

def center (c : Index) : FaceIjk :=
  let leading := c.digits.find? (· != 0)
  let pentagon := c.isPentagonBased
  let digits := if pentagon && leading = some 5 then c.digits.map clockwiseDigit else c.digits
  let leading := digits.find? (· != 0)
  let home := baseCells.getD c.baseCell default
  let coord := walk home.coord digits
  let resolution := c.resolution
  if !pentagon && (resolution = 0 || home.coord = ⟨0, 0, 0⟩) then ⟨home.face, coord⟩
  else
    let turned := isTurned resolution
    let evenResolution := if turned then resolution + 1 else resolution
    let start : FaceIjk := ⟨home.face, if turned then coord.downSevenClockwise else coord⟩
    match start.adjust evenResolution (pentagon && leading = some 4) false with
    | (_, .none) => ⟨home.face, coord⟩
    | (moved, _) =>
      let settled := if pentagon then moved.settle evenResolution 12 else moved
      if turned then ⟨settled.face, settled.coord.upSevenClockwise⟩ else settled

end FeatureLayers.Cell
