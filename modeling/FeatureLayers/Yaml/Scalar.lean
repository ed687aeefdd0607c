import FeatureLayers.Numeric.Reading
import FeatureLayers.Yaml.Spot

namespace FeatureLayers.Yaml

def escaped? : Char → Option Char
  | '0' => some (Char.ofNat 0)
  | 'a' => some (Char.ofNat 7)
  | 'b' => some (Char.ofNat 8)
  | 't' | '\t' => some '\t'
  | 'n' => some '\n'
  | 'v' => some (Char.ofNat 11)
  | 'f' => some (Char.ofNat 12)
  | 'r' => some '\r'
  | 'e' => some (Char.ofNat 27)
  | ' ' => some ' '
  | '"' => some '"'
  | '/' => some '/'
  | '\\' => some '\\'
  | 'N' => some (Char.ofNat 0x85)
  | '_' => some (Char.ofNat 0xa0)
  | 'L' => some (Char.ofNat 0x2028)
  | 'P' => some (Char.ofNat 0x2029)
  | _ => none

def escapeDigits? : Char → Option Nat
  | 'x' => some 2
  | 'u' => some 4
  | 'U' => some 8
  | _ => none

def charOfDigits? (count : Nat) (digits : List Char) : Option Char :=
  if digits.length = count then
    (digitsValue? 16 digits).bind fun n => if n.isValidChar then some (Char.ofNat n) else none
  else none

/-- Ends a gap; both lists are kept last character first. After an escaped break only further breaks stay. -/
def closeGap (afterEscape : Bool) (gap read : List Char) : List Char :=
  let gap := gap.reverse
  (if afterEscape then gap.filter isBreak else foldGap gap).reverse ++ read

def doubleQuoted (read gap : List Char) (afterEscape : Bool) : List Spot → Option (List Char × List Spot)
  | [] => none
  | s :: rest =>
    if isGap s.char then doubleQuoted read (s.char :: gap) afterEscape rest
    else if atBoundary (s :: rest) then none
    else
      let read := closeGap afterEscape gap read
      if s.char = '"' then some (read.reverse, rest)
      else if s.char = '\\' then
        match rest with
        | [] => none
        | e :: rest =>
          if isBreak e.char then doubleQuoted read [] true rest
          else match escaped? e.char, escapeDigits? e.char with
            | some c, _ => doubleQuoted (c :: read) [] false rest
            | none, some count => match charOfDigits? count (chars (rest.take count)) with
              | some c => doubleQuoted (c :: read) [] false (rest.drop count)
              | none => none
            | none, none => none
      else doubleQuoted (s.char :: read) [] false rest
termination_by spots => spots.length
decreasing_by all_goals simp only [List.length_cons, List.length_drop]; omega

def singleQuoted (read gap : List Char) : List Spot → Option (List Char × List Spot)
  | [] => none
  | s :: rest =>
    if isGap s.char then singleQuoted read (s.char :: gap) rest
    else if atBoundary (s :: rest) then none
    else
      let read := closeGap false gap read
      if s.char = '\'' then
        match rest with
        | [] => some (read.reverse, [])
        | q :: tail => if q.char = '\'' then singleQuoted ('\'' :: read) [] tail else some (read.reverse, q :: tail)
      else singleQuoted (s.char :: read) [] rest

def isFlowIndicator (c : Char) : Bool := c = ',' || c = '[' || c = ']' || c = '\x7b' || c = '\x7d'

def endsPlain (inFlow : Bool) (c : Char) (rest : List Spot) : Bool :=
  (c = ':' && endsWord rest) || (inFlow && isFlowIndicator c)

def isLostColon (inFlow : Bool) (c : Char) (rest : List Spot) : Bool :=
  inFlow && c = ':' && rest.head?.any fun s => isFlowIndicator s.char || s.char = '?'

/--
A plain scalar, whether it ended after a break, and what follows. Outside flow collections its further lines start at
column `indent` or behind it.
-/
def plain (inFlow : Bool) (indent : Nat) (read gap : List Char) : List Spot → Option (List Char × Bool × List Spot)
  | [] => some (read.reverse, gap.any isBreak, [])
  | s :: rest =>
    let afterBreak := gap.any isBreak
    if isGap s.char then
      if s.char = '\t' && afterBreak && s.column < indent then none
      else plain inFlow indent read (s.char :: gap) rest
    else if atBoundary (s :: rest) || (!gap.isEmpty && s.char = '#') ||
        (afterBreak && !inFlow && s.column < indent) then
      some (read.reverse, afterBreak, s :: rest)
    else if isLostColon inFlow s.char rest then none
    else if endsPlain inFlow s.char rest then some (read.reverse, afterBreak, s :: rest)
    else plain inFlow indent (s.char :: closeGap false gap read) [] rest

inductive Chomp
  | strip
  | clip
  | keep
deriving DecidableEq, Repr, Inhabited

def chomp? : Char → Option Chomp
  | '-' => some .strip
  | '+' => some .keep
  | _ => none

def blockHead (spots : List Spot) : Option (Chomp × Nat × List Spot) :=
  let (chomp, indent?, rest) := match chars (spots.take 2) with
    | c :: d :: _ => match chomp? c, digitValue? c, chomp? d, digitValue? d with
      | some chomp, _, _, some n => (chomp, some n, spots.drop 2)
      | some chomp, _, _, none => (chomp, none, spots.drop 1)
      | none, some n, some chomp, _ => (chomp, some n, spots.drop 2)
      | none, some n, none, _ => (.clip, some n, spots.drop 1)
      | none, none, _, _ => (.clip, none, spots)
    | [c] => match chomp? c, digitValue? c with
      | some chomp, _ => (chomp, none, [])
      | none, some n => (.clip, some n, [])
      | none, none => (.clip, none, spots)
    | [] => (.clip, none, [])
  let rest := rest.dropWhile (isSpace ·.char)
  let rest := if (rest.head?.map (·.char)) = some '#' then rest.dropWhile (!isBreak ·.char) else rest
  if indent? = some 0 then none
  else match rest with
    | [] => some (chomp, indent?.getD 0, [])
    | s :: rest => if isBreak s.char then some (chomp, indent?.getD 0, rest) else none

def emptyLines (indent deepest : Nat) (breaks : List Char) : List Spot → Option (List Char × Nat × List Spot)
  | [] => some (breaks.reverse, deepest, [])
  | s :: rest =>
    let inside := indent = 0 || s.column < indent
    if inside && s.char = ' ' then emptyLines indent deepest breaks rest
    else if inside && s.char = '\t' then none
    else
      let deepest := max deepest s.column
      if isBreak s.char then emptyLines indent deepest (s.char :: breaks) rest
      else some (breaks.reverse, deepest, s :: rest)

def blockJoint (folded afterBlank startsBlank : Bool) (leading trailing : List Char) : List Char :=
  if folded && leading = ['\n'] && !afterBlank && !startsBlank then
    if trailing.isEmpty then [' '] else trailing
  else leading ++ trailing

def chomped (chomp : Chomp) (text leading trailing : List Char) : List Char :=
  match chomp with
  | .strip => text
  | .clip => text ++ leading
  | .keep => text ++ leading ++ trailing

def blockLines (folded : Bool) (chomp : Chomp) (indent : Nat) :
    (fuel : Nat) → (text leading trailing : List Char) → (afterBlank : Bool) → List Spot → Option (List Char × List Spot)
  | 0, text, leading, trailing, _, spots => some (chomped chomp text leading trailing, spots)
  | _ + 1, text, leading, trailing, _, [] => some (chomped chomp text leading trailing, [])
  | fuel + 1, text, leading, trailing, afterBlank, s :: rest =>
    if s.column = indent then do
      let startsBlank := isSpace s.char
      let line := chars ((s :: rest).takeWhile (!isBreak ·.char))
      let behind := (s :: rest).dropWhile (!isBreak ·.char)
      let (trailing', _, next) ← emptyLines indent 0 [] (behind.drop 1)
      let text := text ++ blockJoint folded afterBlank startsBlank leading trailing ++ line
      blockLines folded chomp indent fuel text (chars (behind.take 1)) trailing' startsBlank next
    else some (chomped chomp text leading trailing, s :: rest)

def block (folded : Bool) (outer : Option Nat) (spots : List Spot) : Option (List Char × List Spot) := do
  let (chomp, given, rest) ← blockHead spots
  let indent := if given = 0 then 0 else outer.getD 0 + given
  let (breaks, deepest, rest) ← emptyLines indent 0 [] rest
  let least := max 1 (outer.elim 0 (· + 1))
  let indent := if indent = 0 then max deepest least else indent
  blockLines folded chomp indent rest.length [] [] breaks false rest

end FeatureLayers.Yaml
