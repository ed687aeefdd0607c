import FeatureLayers.Geometry.Basic

namespace FeatureLayers.Wkb

inductive ByteOrder
  | bigEndian
  | littleEndian
deriving DecidableEq, Repr

def natOfBytes : List UInt8 → Nat
  | [] => 0
  | b :: rest => b.toNat + 256 * natOfBytes rest

def bytesOfNat : Nat → Nat → List UInt8
  | 0, _ => []
  | count + 1, n => UInt8.ofNat n :: bytesOfNat count (n / 256)

def ByteOrder.natOf (order : ByteOrder) (bytes : List UInt8) : Nat :=
  match order with
  | .littleEndian => natOfBytes bytes
  | .bigEndian => natOfBytes bytes.reverse

def flagZ : Nat := 0x80000000

def flagM : Nat := 0x40000000

def flagSrid : Nat := 0x20000000

def hasFlag (word flag : Nat) : Bool := word / flag % 2 = 1

inductive Shape
  | point
  | lineString
  | polygon
  | multiPoint
  | multiLineString
  | multiPolygon
  | geometryCollection
deriving DecidableEq, Repr

namespace Shape

def code : Shape → Nat
  | .point => 1
  | .lineString => 2
  | .polygon => 3
  | .multiPoint => 4
  | .multiLineString => 5
  | .multiPolygon => 6
  | .geometryCollection => 7

def ofCode? : Nat → Option Shape
  | 1 => some .point
  | 2 => some .lineString
  | 3 => some .polygon
  | 4 => some .multiPoint
  | 5 => some .multiLineString
  | 6 => some .multiPolygon
  | 7 => some .geometryCollection
  | _ => none

end Shape

/-- Containers nested deeper than this are taken as corrupt. -/
def maxDepth : Nat := 32

inductive Fault
  | endOfData
  | byteOrder (byte : UInt8)
  | unknownType (code : Nat)
  | countTooLarge (count remaining : Nat)
  | emptyPoint
  | memberNotPoint
  | memberNotLineString
  | memberNotPolygon
  | tooDeep
  | trailing (count : Nat)
  | oddHex
  | invalidHex
  | notBinary (shown : String)
deriving DecidableEq, Repr

end FeatureLayers.Wkb
