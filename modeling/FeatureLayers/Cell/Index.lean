import FeatureLayers.Value

namespace FeatureLayers.Cell

def baseCellCount : Nat := 122

def pentagonBaseCells : List Nat := [4, 14, 24, 38, 49, 58, 63, 72, 83, 97, 107, 117]

def bitsAt (word low width : Nat) : Nat := word / Nat.pow 2 low % Nat.pow 2 width

def wordResolution (word : Nat) : Nat := bitsAt word 52 4

def wordBaseCell (word : Nat) : Nat := bitsAt word 45 7

def wordDigit (word r : Nat) : Nat := bitsAt word (3 * (15 - r)) 3

def wordDigits (word : Nat) : List Nat := (List.range (wordResolution word)).map fun r => wordDigit word (r + 1)

def wordUnusedDigits (word : Nat) : List Nat :=
  (List.range (15 - wordResolution word)).map fun i => bitsAt word (3 * i) 3

def isCellWord (word : Nat) : Bool :=
  bitsAt word 56 8 = 0b00001000 && wordBaseCell word < baseCellCount && (wordDigits word).all (· < 7) &&
    (wordUnusedDigits word).all (· = 7) &&
    !(pentagonBaseCells.contains (wordBaseCell word) && (wordDigits word).find? (· != 0) = some 1)

/-- A word that names a cell by a base cell and a digit for each resolution; the digits of finer resolutions are seven. -/
structure Index where
  word : Nat
  valid : isCellWord word = true
deriving DecidableEq, Repr

namespace Index

def of? (word : Nat) : Option Index := if h : isCellWord word = true then some ⟨word, h⟩ else none

def resolution (c : Index) : Nat := wordResolution c.word

def baseCell (c : Index) : Nat := wordBaseCell c.word

def digits (c : Index) : List Nat := wordDigits c.word

def isPentagonBased (c : Index) : Bool := pentagonBaseCells.contains c.baseCell

def isPentagon (c : Index) : Bool := c.isPentagonBased && c.digits.all (· = 0)

end Index

def Index.text (c : Index) : String := String.ofList (Nat.toDigits 16 c.word)

def dropHexMarks : List Char → List Char
  | '0' :: 'x' :: rest => dropHexMarks rest
  | text => text

def ofText? (text : String) : Option Index :=
  let trimmed := Text.trim text.toList
  ((natBelow? 16 (Nat.pow 2 64) (dropHexMarks trimmed)).bind Index.of?).or ((nat64? trimmed).bind Index.of?)

/-- The largest double below which every integer is exact. -/
def maxExact : Int := Nat.pow 2 53

def ofValue? : Value → Option Index
  | .int n => if 0 ≤ n then Index.of? n.toNat else none
  | .double x =>
    if x.isIntegral && 0 ≤ x.truncate && x.truncate ≤ maxExact then Index.of? x.truncate.toNat else none
  | .text s => ofText? s
  | _ => none

end FeatureLayers.Cell
