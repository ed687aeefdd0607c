import FeatureLayers.Wkb.Word

namespace FeatureLayers.Wkb

def countBytes (n : Nat) : List UInt8 := bytesOfNat 4 n

def header (shape : Shape) : List UInt8 := 1 :: bytesOfNat 4 shape.code

def doubleBytes (x : Double) : List UInt8 := bytesOfNat 8 x.bits.toNat

def coordBytes (c : Coord) : List UInt8 := doubleBytes c.x ++ doubleBytes c.y

def lineBytes (coords : List Coord) : List UInt8 := countBytes coords.length ++ coords.flatMap coordBytes

def polygonBytes (p : Polygon) : List UInt8 :=
  countBytes (p.interiors.length + 1) ++ (p.exterior :: p.interiors).flatMap lineBytes

def writePoint (c : Coord) : List UInt8 := header .point ++ coordBytes c

def writeLine (coords : List Coord) : List UInt8 := header .lineString ++ lineBytes coords

def writePolygon (p : Polygon) : List UInt8 := header .polygon ++ polygonBytes p

mutual

def write : Geometry → List UInt8
  | .point c => writePoint c
  | .line a b => writeLine [a, b]
  | .lineString coords => writeLine coords
  | .polygon p => writePolygon p
  | .multiPoint points => header .multiPoint ++ countBytes points.length ++ points.flatMap writePoint
  | .multiLineString lines => header .multiLineString ++ countBytes lines.length ++ lines.flatMap writeLine
  | .multiPolygon polygons => header .multiPolygon ++ countBytes polygons.length ++ polygons.flatMap writePolygon
  | .geometryCollection members =>
    header .geometryCollection ++ countBytes members.length ++ writeMembers members
  | .rect r => writePolygon r.toPolygon
  | .triangle a b c => writePolygon (Polygon.closing (Geometry.triangleRing a b c) [])

def writeMembers : List Geometry → List UInt8
  | [] => []
  | g :: rest => write g ++ writeMembers rest

end

end FeatureLayers.Wkb
