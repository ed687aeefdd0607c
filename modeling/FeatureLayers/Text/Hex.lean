import FeatureLayers.Numeric.Reading

namespace FeatureLayers.Text.Hex

def digit (n : Nat) : Char := Nat.digitChar n

def encodeByte (byte : UInt8) : List Char := [digit (byte.toNat / 16), digit (byte.toNat % 16)]

def encode (bytes : List UInt8) : List Char := bytes.flatMap encodeByte

inductive Fault
  | oddLength
  | invalid
deriving DecidableEq, Repr

def pair? (high low : Char) : Option UInt8 := (natBelow? 16 256 [high, low]).map UInt8.ofNat

def pairs? : List Char → Option (List UInt8)
  | [] => some []
  | [_] => none
  | high :: low :: rest => match pair? high low, pairs? rest with
    | some byte, some bytes => some (byte :: bytes)
    | _, _ => none

/-- The length is counted in UTF-8 bytes. -/
def decode (text : List Char) : Except Fault (List UInt8) :=
  if (String.ofList text).utf8ByteSize % 2 != 0 then .error .oddLength
  else match pairs? text with
    | some bytes => .ok bytes
    | none => .error .invalid

end FeatureLayers.Text.Hex
