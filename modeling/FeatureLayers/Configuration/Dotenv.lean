import FeatureLayers.Configuration.Environment

namespace FeatureLayers.Dotenv

inductive LineState
  | text
  | blank
  | escape
  | double
  | doubleEscape
  | single
  | singleEscape
  | comment
deriving DecidableEq, Repr, Inhabited

def openingOf (c : Char) : LineState :=
  if c = '\\' then .escape else if c = '"' then .double else if c = '\'' then .single else .text

def LineState.next (c : Char) : LineState → LineState
  | .blank => if c = '#' then .comment else openingOf c
  | .text => if Text.isBlank c && c != '\n' && c != '\r' then .blank else openingOf c
  | .escape => .text
  | .double => if c = '\\' then .doubleEscape else if c = '"' then .text else .double
  | .doubleEscape => .double
  | .single => if c = '\\' then .singleEscape else if c = '\'' then .text else .single
  | .singleEscape => .single
  | .comment => .comment

/-- The state after a line, and the line up to a comment. What was read is kept last character first. -/
def followLine (state : LineState) (read : List Char) : List Char → LineState × List Char
  | [] => (state, read.reverse)
  | c :: rest => match state.next c with
    | .comment => (.comment, read.reverse)
    | next => followLine next (c :: read) rest

def physicalLines (line : List Char) : List Char → List (List Char)
  | [] => if line.isEmpty then [] else [line.reverse]
  | c :: rest => if c = '\n' then (c :: line).reverse :: physicalLines [] rest else physicalLines (c :: line) rest

def withoutEnd (line : List Char) : List Char :=
  match line.reverse with
  | '\n' :: '\r' :: read => read.reverse
  | '\n' :: read => read.reverse
  | _ => line

/-- Joins lines between quotes; `none` stands for a quote that is never closed. -/
def logicalLines (state : LineState) (begun : List Char) : List (List Char) → List (Option (List Char))
  | [] => if state = .text then [] else [none]
  | line :: rest =>
    if (Text.trimStart (begun ++ line)).head? = some '#' then some [] :: logicalLines .text [] rest
    else match followLine state [] line with
      | (.text, _) => some (withoutEnd (begun ++ line)) :: logicalLines .text [] rest
      | (.comment, kept) => some (begun ++ kept) :: logicalLines .text [] rest
      | (next, _) => logicalLines next (begun ++ line) rest

def isNameStart (c : Char) : Bool := c.isAlpha || c = '_'

def isNameChar (c : Char) : Bool := c.isAlphanum || c = '_' || c = '.'

def name? (line : List Char) : Option (List Char × List Char) :=
  if line.head?.any isNameStart then some (line.takeWhile isNameChar, Text.trimStart (line.dropWhile isNameChar)) else none

def afterEquals? : List Char → Option (List Char)
  | '=' :: rest => some rest
  | _ => none

def assignment? (line : List Char) : Option (List Char × List Char) := do
  let (name, rest) ← name? line
  match afterEquals? rest with
  | some value => return (name, value)
  | none =>
    if name = "export".toList then
      let (name, rest) ← name? rest
      return (name, ← afterEquals? rest)
    else none

inductive Quote
  | none
  | single
  | double
deriving DecidableEq, Repr, Inhabited

inductive Mention
  | none
  | bare (name : List Char)
  | braced (name : List Char)
deriving DecidableEq, Repr, Inhabited

/-- How far a value is read; what was read is kept last character first. -/
structure ValueState where
  read : List Char
  quote : Quote
  isEscaped : Bool
  mention : Mention
  hasEnded : Bool
  inComment : Bool
deriving Repr, Inhabited

namespace ValueState

def start : ValueState := ⟨[], .none, false, .none, false, false⟩

def push (c : Char) (s : ValueState) : ValueState := { s with read := c :: s.read }

def resolve (environment : Environment) (name : List Char) (s : ValueState) : ValueState :=
  let value := (environment.get? (String.ofList name.reverse)).getD ""
  { s with read := value.toList.reverse ++ s.read, mention := .none }

def isMentionChar (c : Char) : Bool := c.isAlphanum || 128 ≤ c.toNat

def step (environment : Environment) (s : ValueState) (c : Char) : Option ValueState :=
  if s.inComment then some s
  else if s.hasEnded then
    if c = ' ' ∨ c = '\t' then some s else if c = '#' then some { s with inComment := true } else none
  else if s.isEscaped then
    let s := { s with isEscaped := false }
    if ['\\', '\'', '"', '$', ' '].contains c then some (s.push c) else if c = 'n' then some (s.push '\n') else none
  else if s.quote = .single then
    if c = '\'' then some { s with quote := .none } else some (s.push c)
  else match s.mention with
    | .bare name =>
      if isMentionChar c then some { s with mention := .bare (c :: name) }
      else if c = '\x7b' ∧ name = [] then some { s with mention := .braced [] }
      else
        let s := s.resolve environment name
        if c = '$' then some { s with mention := .bare [] } else some (s.push c)
    | .braced name => if c = '\x7d' then some (s.resolve environment name) else some { s with mention := .braced (c :: name) }
    | .none =>
      if c = '$' then some { s with mention := .bare [] }
      else if c = '\\' then some { s with isEscaped := true }
      else if s.quote = .double then
        if c = '"' then some { s with quote := .none } else some (s.push c)
      else if c = '\'' then some { s with quote := .single }
      else if c = '"' then some { s with quote := .double }
      else if c = ' ' ∨ c = '\t' then some { s with hasEnded := true }
      else some (s.push c)

def finish (environment : Environment) (s : ValueState) : Option (List Char) :=
  match s.quote, s.mention with
  | .none, .none => some s.read.reverse
  | .none, .bare name => some (s.resolve environment name).read.reverse
  | _, _ => none

end ValueState

def value? (environment : Environment) (text : List Char) : Option (List Char) := do
  if text.isEmpty || text.head? = some '#' then return []
  else
    let s ← text.foldlM (ValueState.step environment) .start
    s.finish environment

def applyLine? (environment : Environment) (line : List Char) : Option Environment := do
  let line := Text.trimStart line
  if line.isEmpty || line.head? = some '#' then return environment
  else
    let (name, rest) ← assignment? line
    let value ← value? environment (Text.trimStart rest)
    let name := String.ofList name
    return if (environment.get? name).isSome then environment else environment.put name (String.ofList value)

def applyLines (environment : Environment) : List (Option (List Char)) → Environment
  | [] => environment
  | line? :: rest => match line?.bind (applyLine? environment) with
    | some environment => applyLines environment rest
    | none => environment

def apply (text : String) (environment : Environment) : Environment :=
  let chars := match text.toList with
    | [] => []
    | c :: rest => if c.toNat = 0xfeff then rest else c :: rest
  applyLines environment (logicalLines .text [] (physicalLines [] chars))

def possibleNames (text : String) : List String :=
  (text.toList.splitBy fun a b => isNameChar a == isNameChar b).map String.ofList

end FeatureLayers.Dotenv
