import FeatureLayers.Wkb.Word

namespace FeatureLayers.Wkb

abbrev Taking (α : Type) := List UInt8 → Except Fault (α × List UInt8)

def takeBytes : Nat → Taking (List UInt8)
  | 0, bytes => .ok ([], bytes)
  | _ + 1, [] => .error .endOfData
  | n + 1, b :: rest => do
    let (others, rest) ← takeBytes n rest
    return (b :: others, rest)

def takeByteOrder : Taking ByteOrder
  | [] => .error .endOfData
  | b :: rest =>
    if b = 0 then .ok (.bigEndian, rest)
    else if b = 1 then .ok (.littleEndian, rest)
    else .error (.byteOrder b)

def takeWord (order : ByteOrder) : Taking Nat := fun bytes => do
  let (word, rest) ← takeBytes 4 bytes
  return (order.natOf word, rest)

def takeDouble (order : ByteOrder) : Taking Double := fun bytes => do
  let (word, rest) ← takeBytes 8 bytes
  return (⟨UInt64.ofNat (order.natOf word)⟩, rest)

def takeCount (order : ByteOrder) : Taking Nat := fun bytes => do
  let (count, rest) ← takeWord order bytes
  if rest.length < count then .error (.countTooLarge count rest.length) else return (count, rest)

def takeMany {α : Type} (take : Taking α) : Nat → Taking (List α)
  | 0, bytes => .ok ([], bytes)
  | count + 1, bytes => do
    let (first, rest) ← take bytes
    let (others, rest) ← takeMany take count rest
    return (first :: others, rest)

structure Header where
  order : ByteOrder
  code : Nat
  extra : Nat
deriving DecidableEq, Repr

def splitTypeWord (word : Nat) : Except Fault (Nat × Nat) :=
  let flagged := (if hasFlag word flagZ then 1 else 0) + (if hasFlag word flagM then 1 else 0)
  let code := word % 0x10000000
  match code / 1000 with
  | 0 => .ok (code, flagged)
  | 1 | 2 => .ok (code % 1000, flagged + 1)
  | 3 => .ok (code % 1000, flagged + 2)
  | _ => .error (.unknownType code)

def takeHeader : Taking Header := fun bytes => do
  let (order, rest) ← takeByteOrder bytes
  let (word, rest) ← takeWord order rest
  let (_, rest) ← if hasFlag word flagSrid then takeWord order rest else pure (0, rest)
  let (code, extra) ← splitTypeWord word
  return (⟨order, code, extra⟩, rest)

def takeCoord (h : Header) : Taking Coord := fun bytes => do
  let (x, rest) ← takeDouble h.order bytes
  let (y, rest) ← takeDouble h.order rest
  let (_, rest) ← takeMany (takeDouble h.order) h.extra rest
  return (⟨x, y⟩, rest)

def takeLine (h : Header) : Taking (List Coord) := fun bytes => do
  let (count, rest) ← takeCount h.order bytes
  takeMany (takeCoord h) count rest

def takePolygon (h : Header) : Taking Polygon := fun bytes => do
  let (count, rest) ← takeCount h.order bytes
  let (rings, rest) ← takeMany (takeLine h) count rest
  match rings with
  | [] => return (⟨[], []⟩, rest)
  | exterior :: interiors => return (Polygon.closing exterior interiors, rest)

def asPoint : Geometry → Except Fault Coord
  | .point c => .ok c
  | _ => .error .memberNotPoint

def asLineString : Geometry → Except Fault (List Coord)
  | .lineString coords => .ok coords
  | _ => .error .memberNotLineString

def asPolygon : Geometry → Except Fault Polygon
  | .polygon p => .ok p
  | _ => .error .memberNotPolygon

def accepting {α : Type} (take : Taking Geometry) (accept : Geometry → Except Fault α) : Taking α := fun bytes => do
  let (g, rest) ← take bytes
  return (← accept g, rest)

def takeMembers {α : Type} (h : Header) (take : Taking Geometry) (accept : Geometry → Except Fault α) :
    Taking (List α) := fun bytes => do
  let (count, rest) ← takeCount h.order bytes
  takeMany (accepting take accept) count rest

/-- A geometry with at most `depth` levels of containers left below it, minus one; zero levels refuse it. -/
def takeGeometry : Nat → Taking Geometry
  | 0, _ => .error .tooDeep
  | depth + 1, bytes => do
    let (h, rest) ← takeHeader bytes
    match Shape.ofCode? h.code with
    | none => .error (.unknownType h.code)
    | some .point =>
      let (c, rest) ← takeCoord h rest
      if c.x.isNaN && c.y.isNaN then .error .emptyPoint else return (.point c, rest)
    | some .lineString =>
      let (coords, rest) ← takeLine h rest
      return (.lineString coords, rest)
    | some .polygon =>
      let (p, rest) ← takePolygon h rest
      return (.polygon p, rest)
    | some .multiPoint =>
      let (points, rest) ← takeMembers h (takeGeometry depth) asPoint rest
      return (.multiPoint points, rest)
    | some .multiLineString =>
      let (lines, rest) ← takeMembers h (takeGeometry depth) asLineString rest
      return (.multiLineString lines, rest)
    | some .multiPolygon =>
      let (polygons, rest) ← takeMembers h (takeGeometry depth) asPolygon rest
      return (.multiPolygon polygons, rest)
    | some .geometryCollection =>
      let (members, rest) ← takeMembers h (takeGeometry depth) (fun g => .ok g) rest
      return (.geometryCollection members, rest)

def read (bytes : List UInt8) : Except Fault Geometry := do
  let (g, rest) ← takeGeometry (maxDepth + 1) bytes
  if rest.isEmpty then return g else .error (.trailing rest.length)

end FeatureLayers.Wkb
