namespace FeatureLayers.Yaml

structure Spot where
  char : Char
  line : Nat
  column : Nat
  index : Nat
deriving DecidableEq, Repr, Inhabited

def isBreak (c : Char) : Bool := c = '\n' || c.toNat = 0x2028 || c.toNat = 0x2029

def isSpace (c : Char) : Bool := c = ' ' || c = '\t'

def isGap (c : Char) : Bool := isSpace c || isBreak c

def isAllowed (c : Char) : Bool :=
  let n := c.toNat
  n = 0x9 || n = 0xa || n = 0xd || (0x20 ≤ n && n ≤ 0x7e) || n = 0x85 || (0xa0 ≤ n && n ≤ 0xd7ff) ||
    (0xe000 ≤ n && n ≤ 0xfffd) || 0x10000 ≤ n

def uniformBreaks : List Char → List Char
  | [] => []
  | '\r' :: '\n' :: rest => '\n' :: uniformBreaks rest
  | c :: rest => (if c = '\r' ∨ c.toNat = 0x85 then '\n' else c) :: uniformBreaks rest

def place (line column index : Nat) : List Char → List Spot
  | [] => []
  | c :: rest =>
    let after := if isBreak c then place (line + 1) 0 (index + 1) rest else place line (column + 1) (index + 1) rest
    ⟨c, line, column, index⟩ :: after

def spots? (text : List Char) : Option (List Spot) :=
  let text := match text with
    | [] => []
    | c :: rest => if c.toNat = 0xfeff then rest else c :: rest
  if text.all isAllowed then some (place 0 0 0 (uniformBreaks text)) else none

def chars (spots : List Spot) : List Char := spots.map (·.char)

def endsWord : List Spot → Bool
  | [] => true
  | s :: _ => isGap s.char

def atMarker (marker : List Char) (spots : List Spot) : Bool :=
  match spots with
  | [] => false
  | s :: _ => s.column = 0 && chars (spots.take marker.length) == marker && endsWord (spots.drop marker.length)

def startMarker : List Char := ['-', '-', '-']

def endMarker : List Char := ['.', '.', '.']

def atBoundary (spots : List Spot) : Bool := atMarker startMarker spots || atMarker endMarker spots

/-- What a run of gaps becomes inside a scalar: one break is a blank, further breaks stay, blanks around breaks go. -/
def foldGap (gap : List Char) : List Char :=
  match gap.filter isBreak with
  | [] => gap
  | ['\n'] => [' ']
  | '\n' :: more => more
  | first :: more => first :: more

end FeatureLayers.Yaml
