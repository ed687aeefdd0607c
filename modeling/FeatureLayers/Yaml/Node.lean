import FeatureLayers.Yaml.Token

namespace FeatureLayers.Yaml

inductive Node
  | absent
  | scalar (style : Style) (tag : Option String) (text : String)
  | sequence (items : List Node)
  | mapping (members : List (Node × Node))
deriving Repr, Inhabited

namespace Node

def empty : Node := .scalar .plain none ""

def text? : Node → Option String
  | .scalar _ _ text => some text
  | _ => none

def isEmpty : Node → Bool
  | .absent => true
  | .scalar .plain _ text => text = ""
  | _ => false

end Node

structure Reader where
  tokens : List Token
  anchors : List (String × Node)

abbrev Read (α : Type) := StateT Reader Option α

namespace Read

def peek : Read (Option Token) := do return (← get).tokens.head?

def skip : Read Unit := modify fun r => { r with tokens := r.tokens.tail }

def take? (token : Token) : Read Bool := do
  if (← peek) = some token then
    skip
    return true
  else return false

def expect (token : Token) : Read Unit := do
  if ← take? token then return () else failure

def isNext (tokens : List Token) : Read Bool := do return (← peek).any tokens.contains

def properties : Read (Option String × Option String) := do
  match ← peek with
  | some (.anchor name) =>
    skip
    match ← peek with
    | some (.tag tag) =>
      skip
      return (some name, some tag)
    | _ => return (some name, none)
  | some (.tag tag) =>
    skip
    match ← peek with
    | some (.anchor name) =>
      skip
      return (some name, some tag)
    | _ => return (none, some tag)
  | _ => return (none, none)

def named (name? : Option String) (node : Node) : Read Node := do
  match name? with
  | some name => modify fun r => { r with anchors := (name, node) :: r.anchors }
  | none => pure ()
  return node

def endsMember : List Token := [.key, .value, .closeBlock]

mutual

/-- One node. In a mapping a sequence may stand at the column of its key, without a token that opens it. -/
def node (inBlock atKey : Bool) : (fuel : Nat) → Read Node
  | 0 => failure
  | fuel + 1 => do
    match ← peek with
    | some (.reference name) =>
      skip
      match (← get).anchors.lookup name with
      | some node => return node
      | none => failure
    | _ =>
      let (anchor, tag) ← properties
      match ← peek with
      | some (.scalar style text) =>
        skip
        named anchor (.scalar style tag text)
      | some .openFlowSequence =>
        skip
        named anchor (.sequence (← flowItems true fuel))
      | some .openFlowMapping =>
        skip
        named anchor (.mapping (← flowMembers true fuel))
      | some .entry =>
        if inBlock && atKey then named anchor (.sequence (← bareItems fuel))
        else if anchor.isSome || tag.isSome then named anchor (.scalar .plain tag "")
        else failure
      | some .openSequence =>
        if inBlock then
          skip
          named anchor (.sequence (← blockItems fuel))
        else if anchor.isSome || tag.isSome then named anchor (.scalar .plain tag "")
        else failure
      | some .openMapping =>
        if inBlock then
          skip
          named anchor (.mapping (← blockMembers fuel))
        else if anchor.isSome || tag.isSome then named anchor (.scalar .plain tag "")
        else failure
      | _ =>
        if anchor.isSome || tag.isSome then named anchor (.scalar .plain tag "") else failure

def nodeUnless (stops : List Token) (inBlock atKey : Bool) : (fuel : Nat) → Read Node
  | 0 => failure
  | fuel + 1 => do
    if ← isNext stops then return .empty else node inBlock atKey fuel

def blockItems : (fuel : Nat) → Read (List Node)
  | 0 => failure
  | fuel + 1 => do
    if ← take? .entry then
      let item ← nodeUnless [.entry, .closeBlock] true false fuel
      return item :: (← blockItems fuel)
    else
      expect .closeBlock
      return []

def bareItems : (fuel : Nat) → Read (List Node)
  | 0 => failure
  | fuel + 1 => do
    if ← take? .entry then
      let item ← nodeUnless (.entry :: endsMember) true false fuel
      return item :: (← bareItems fuel)
    else return []

def blockMembers : (fuel : Nat) → Read (List (Node × Node))
  | 0 => failure
  | fuel + 1 => do
    if ← isNext [.key, .value] then
      let key ← if ← take? .key then nodeUnless endsMember true true fuel else pure .empty
      let value ← if ← take? .value then nodeUnless endsMember true true fuel else pure .empty
      return (key, value) :: (← blockMembers fuel)
    else
      expect .closeBlock
      return []

def flowItems (isFirst : Bool) : (fuel : Nat) → Read (List Node)
  | 0 => failure
  | fuel + 1 => do
    if ← take? .closeFlowSequence then return []
    else
      if !isFirst then expect .separator
      if ← take? .closeFlowSequence then return []
      else
        let item ← if ← take? .key then pair fuel else node false false fuel
        return item :: (← flowItems false fuel)

def pair : (fuel : Nat) → Read Node
  | 0 => failure
  | fuel + 1 => do
    let key ← nodeUnless [.value, .separator, .closeFlowSequence] false false fuel
    let value ← if ← take? .value then nodeUnless [.separator, .closeFlowSequence] false false fuel else pure .empty
    return .mapping [(key, value)]

def flowMembers (isFirst : Bool) : (fuel : Nat) → Read (List (Node × Node))
  | 0 => failure
  | fuel + 1 => do
    if ← take? .closeFlowMapping then return []
    else
      if !isFirst then expect .separator
      if ← take? .closeFlowMapping then return []
      else
        let ends : List Token := [.separator, .closeFlowMapping]
        let member ← if ← take? .key then do
            let key ← nodeUnless (.value :: ends) false false fuel
            let value ← if ← take? .value then nodeUnless ends false false fuel else pure .empty
            pure (key, value)
          else do
            let key ← node false false fuel
            pure (key, .empty)
        return member :: (← flowMembers false fuel)

end

def dropEnds : Read Unit := modify fun r => { r with tokens := r.tokens.dropWhile (· == .documentEnd) }

def opened (fuel : Nat) : Read Node := do
  expect .documentStart
  match ← peek with
  | none | some .directive | some .documentStart | some .documentEnd => return .empty
  | some _ => node true false fuel

def document (fuel : Nat) : Read Node := do
  let root ← match ← peek with
    | none => pure .absent
    | some .documentStart => opened fuel
    | some .directive =>
      modify fun r => { r with tokens := r.tokens.dropWhile (· == .directive) }
      opened fuel
    | some _ => node true false fuel
  dropEnds
  match ← peek with
  | none => return root
  | some _ => failure

end Read

namespace Node

/-- Every call takes a token or is the last but one before a call that does. -/
def ofTokens? (tokens : List Token) : Option Node :=
  ((Read.document (2 * tokens.length + 4)).run ⟨tokens, []⟩).map Prod.fst

def ofText? (text : String) : Option Node := (tokens? text.toList).bind ofTokens?

end Node

end FeatureLayers.Yaml
