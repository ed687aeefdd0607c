import FeatureLayers.Text.Blank
import FeatureLayers.Yaml.Scalar

namespace FeatureLayers.Yaml

inductive Style
  | plain
  | quoted
  | literal
  | folded
deriving DecidableEq, Repr, Inhabited

inductive Token
  | directive
  | documentStart
  | documentEnd
  | openSequence
  | openMapping
  | closeBlock
  | entry
  | openFlowSequence
  | closeFlowSequence
  | openFlowMapping
  | closeFlowMapping
  | separator
  | key
  | value
  | anchor (name : String)
  | reference (name : String)
  | tag (name : String)
  | scalar (style : Style) (text : String)
deriving DecidableEq, Repr, Inhabited

structure PendingKey where
  isRequired : Bool
  token : Nat
  start : Spot
deriving Repr, Inhabited

structure Layout where
  columns : List Nat
  keyAllowed : Bool
  pending : Option PendingKey
  outerPending : List (Option PendingKey)
  tokens : Array Token
deriving Inhabited

namespace PendingKey

def maxLength : Nat := 1024

/-- A key stands on the line of its colon and not too far in front of it. -/
def reaches (k : PendingKey) (colon : Spot) : Bool :=
  k.start.line = colon.line && colon.index ≤ k.start.index + maxLength

end PendingKey

namespace Layout

def start : Layout := ⟨[], true, none, [], #[]⟩

def inFlow (l : Layout) : Bool := !l.outerPending.isEmpty

def push (token : Token) (l : Layout) : Layout := { l with tokens := l.tokens.push token }

def allowKey (allowed : Bool) (l : Layout) : Layout := { l with keyAllowed := allowed }

def dropKey (l : Layout) : Option Layout :=
  if l.pending.any (·.isRequired) then none else some { l with pending := none }

def expectKey (s : Spot) (l : Layout) : Option Layout :=
  if l.keyAllowed then do
    let l ← l.dropKey
    return { l with pending := some ⟨!l.inFlow && l.columns.head? = some s.column, l.tokens.size, s⟩ }
  else some l

def openBlock (column position : Nat) (token : Token) (l : Layout) : Layout :=
  if !l.inFlow && l.columns.head?.all (· < column) then
    { l with columns := column :: l.columns, tokens := l.tokens.insertIdxIfInBounds position token }
  else l

def closeBlocks (column : Option Nat) (l : Layout) : Layout :=
  if l.inFlow then l
  else
    let closed := l.columns.takeWhile fun c => column.all (· < c)
    { l with
      columns := l.columns.drop closed.length
      tokens := l.tokens ++ List.replicate closed.length Token.closeBlock }

def openFlow (s : Spot) (token : Token) (l : Layout) : Option Layout := do
  let l ← l.expectKey s
  return { l with pending := none, outerPending := l.pending :: l.outerPending, keyAllowed := true }.push token

def closeFlow (token : Token) (l : Layout) : Option Layout := do
  let l ← l.dropKey
  return { l with pending := l.outerPending.head?.join, outerPending := l.outerPending.tail, keyAllowed := false }.push token

def separate (l : Layout) : Option Layout := do
  let l ← l.dropKey
  return (l.allowKey true).push .separator

def blockEntry (s : Spot) (l : Layout) : Option Layout := do
  if !l.inFlow && !l.keyAllowed then none
  else
    let l ← (l.openBlock s.column l.tokens.size .openSequence).dropKey
    return (l.allowKey true).push .entry

def explicitKey (s : Spot) (l : Layout) : Option Layout := do
  if !l.inFlow && !l.keyAllowed then none
  else
    let l ← (l.openBlock s.column l.tokens.size .openMapping).dropKey
    return (l.allowKey !l.inFlow).push .key

/-- A colon makes the pending key a key. Without one, a value may stand only where a key may. -/
def valueMark (s : Spot) (l : Layout) : Option Layout :=
  match l.pending.filter (·.reaches s) with
  | some k =>
    let l := { l with tokens := l.tokens.insertIdxIfInBounds k.token .key, pending := none, keyAllowed := false }
    some ((l.openBlock k.start.column k.token .openMapping).push .value)
  | none => do
    let l ← l.dropKey
    if !l.inFlow && !l.keyAllowed then none
    else return ((l.openBlock s.column l.tokens.size .openMapping).allowKey !l.inFlow).push .value

def node (s : Spot) (token : Token) (l : Layout) : Option Layout := do
  let l ← l.expectKey s
  return (l.allowKey false).push token

def boundary (token : Token) (l : Layout) : Option Layout := do
  let l ← (l.closeBlocks none).dropKey
  return (l.allowKey false).push token

end Layout

def skipGaps (inComment : Bool) (l : Layout) : List Spot → Layout × List Spot
  | [] => (l, [])
  | s :: rest =>
    if isBreak s.char then skipGaps false (if l.inFlow then l else l.allowKey true) rest
    else if inComment then skipGaps true l rest
    else if s.char = ' ' || (s.char = '\t' && (l.inFlow || !l.keyAllowed)) then skipGaps false l rest
    else if s.char = '#' then skipGaps true l rest
    else (l, s :: rest)

def isNameChar (c : Char) : Bool := c.isAlphanum || c = '_' || c = '-'

def anchorName? (spots : List Spot) : Option (String × List Spot) :=
  let name := chars (spots.takeWhile (isNameChar ·.char))
  let rest := spots.dropWhile (isNameChar ·.char)
  let ends := endsWord rest || rest.head?.any fun s => ['?', ':', ',', ']', '\x7d', '%', '@', '\x60'].contains s.char
  if name.isEmpty || !ends then none else some (String.ofList name, rest)

def isTagChar (inFlow : Bool) (c : Char) : Bool :=
  c.isAlphanum || "-_;/?:@&=+$.!~*'()%#".toList.contains c || (!inFlow && (c = ',' || c = '[' || c = ']'))

def coreTag : String := "tag:yaml.org,2002:"

/-- A tag in full: verbatim, of the core schema, or local. Other handles are not defined. -/
def tagName? : List Char → Option String
  | '!' :: '!' :: name => if name.isEmpty || name.contains '!' then none else some (coreTag ++ String.ofList name)
  | '!' :: name => if name.contains '!' then none else some (String.ofList ('!' :: name))
  | _ => none

def tag? (inFlow : Bool) (spots : List Spot) : Option (String × List Spot) := do
  let (name, rest) ← match chars (spots.take 2) with
    | ['!', '<'] =>
      let inside := (spots.drop 2).takeWhile (isTagChar false ·.char)
      match (spots.drop 2).dropWhile (isTagChar false ·.char) with
      | s :: rest => if s.char = '>' && !inside.isEmpty then some (String.ofList (chars inside), rest) else none
      | [] => none
    | _ => do
      let name ← tagName? (chars (spots.takeWhile fun s => isTagChar inFlow s.char))
      pure (name, spots.dropWhile fun s => isTagChar inFlow s.char)
  if endsWord rest || (inFlow && rest.head?.any (·.char = ',')) then some (name, rest) else none

def isKnownDirective (line : List Char) : Bool :=
  let words := ((Text.splitOnChar ' ' line).filter (!·.isEmpty)).takeWhile (·.head? != some '#')
  match words with
  | [name, '1' :: '.' :: minor] => name = "%YAML".toList && !minor.isEmpty && minor.all isDigit
  | [name, _, _] => name = "%TAG".toList
  | _ => false

def isIndicator (c : Char) : Bool := "-?:,[]\x7b\x7d#&*!|>'\"%@\x60".toList.contains c

def startsPlain (inFlow : Bool) (s : Spot) (rest : List Spot) : Bool :=
  (!isGap s.char && !isIndicator s.char) || (s.char = '-' && !rest.head?.any (isSpace ·.char)) ||
    (!inFlow && (s.char = '?' || s.char = ':') && !endsWord rest)

def blockScalar (style : Style) (l : Layout) (rest : List Spot) : Option (Layout × List Spot) := do
  let l ← l.dropKey
  let (text, rest) ← block (style == .folded) l.columns.head? rest
  return ((l.allowKey true).push (.scalar style (String.ofList text)), rest)

def plainScalar (l : Layout) (s : Spot) (rest : List Spot) : Option (Layout × List Spot) := do
  let l ← l.expectKey s
  let (text, afterBreak, rest) ← plain l.inFlow (l.columns.head?.elim 0 (· + 1)) [] [] (s :: rest)
  return ((l.allowKey afterBreak).push (.scalar .plain (String.ofList text)), rest)

def readToken (l : Layout) (s : Spot) (rest : List Spot) : Option (Layout × List Spot) := do
  let spots := s :: rest
  let withRest (tail : List Spot) (l : Layout) : Layout × List Spot := (l, tail)
  if s.column = 0 && s.char = '%' then
    if isKnownDirective (chars (spots.takeWhile (!isBreak ·.char))) then
      (l.boundary .directive).map (withRest (spots.dropWhile (!isBreak ·.char)))
    else none
  else if atMarker startMarker spots then (l.boundary .documentStart).map (withRest (spots.drop 3))
  else if atMarker endMarker spots then (l.boundary .documentEnd).map (withRest (spots.drop 3))
  else if s.char = '[' then (l.openFlow s .openFlowSequence).map (withRest rest)
  else if s.char = '\x7b' then (l.openFlow s .openFlowMapping).map (withRest rest)
  else if s.char = ']' then (l.closeFlow .closeFlowSequence).map (withRest rest)
  else if s.char = '\x7d' then (l.closeFlow .closeFlowMapping).map (withRest rest)
  else if s.char = ',' then l.separate.map (withRest rest)
  else if s.char = '-' && endsWord rest then (l.blockEntry s).map (withRest rest)
  else if s.char = '?' && (l.inFlow || endsWord rest) then (l.explicitKey s).map (withRest rest)
  else if s.char = ':' && (l.inFlow || endsWord rest) then (l.valueMark s).map (withRest rest)
  else if s.char = '*' then
    let (name, tail) ← anchorName? rest
    (l.node s (.reference name)).map (withRest tail)
  else if s.char = '&' then
    let (name, tail) ← anchorName? rest
    (l.node s (.anchor name)).map (withRest tail)
  else if s.char = '!' then
    let (name, tail) ← tag? l.inFlow spots
    (l.node s (.tag name)).map (withRest tail)
  else if s.char = '|' && !l.inFlow then blockScalar .literal l rest
  else if s.char = '>' && !l.inFlow then blockScalar .folded l rest
  else if s.char = '\'' then
    let (text, tail) ← singleQuoted [] [] rest
    (l.node s (.scalar .quoted (String.ofList text))).map (withRest tail)
  else if s.char = '"' then
    let (text, tail) ← doubleQuoted [] [] false rest
    (l.node s (.scalar .quoted (String.ofList text))).map (withRest tail)
  else if startsPlain l.inFlow s rest then plainScalar l s rest
  else none

/-- Reads tokens to the end; every token takes at least one character, so `fuel` is the length of the text. -/
def readTokens : (fuel : Nat) → Layout → List Spot → Option (Array Token)
  | fuel, l, spots => match skipGaps false l spots with
    | (l, []) => (l.closeBlocks none).dropKey.map (·.tokens)
    | (l, s :: rest) => match fuel with
      | 0 => none
      | fuel + 1 => do
        let (l, rest) ← readToken (l.closeBlocks (some s.column)) s rest
        readTokens fuel l rest

def tokens? (text : List Char) : Option (List Token) := do
  let spots ← spots? text
  return (← readTokens spots.length .start spots).toList

end FeatureLayers.Yaml
