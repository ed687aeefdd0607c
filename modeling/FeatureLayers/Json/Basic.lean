import FeatureLayers.Entries
import FeatureLayers.Numeric.Printing

namespace FeatureLayers

inductive Json
  | null
  | bool (value : Bool)
  | int (value : Int)
  | double (value : Double)
  | string (value : String)
  | array (items : List Json)
  | object (members : List (String × Json))
deriving Repr, Inhabited

namespace Json

def escapeChar (c : Char) : List Char :=
  if c = '"' then ['\\', '"']
  else if c = '\\' then ['\\', '\\']
  else if c = '\n' then ['\\', 'n']
  else if c = '\r' then ['\\', 'r']
  else if c = '\t' then ['\\', 't']
  else if c.toNat = 8 then ['\\', 'b']
  else if c.toNat = 12 then ['\\', 'f']
  else if c.toNat < 32 then
    ['\\', 'u', '0', '0', Nat.digitChar (c.toNat / 16), Nat.digitChar (c.toNat % 16)]
  else [c]

def quoted (text : String) : List Char := '"' :: text.toList.flatMap escapeChar ++ ['"']

def scalarChars : Json → List Char
  | .null => "null".toList
  | .bool true => "true".toList
  | .bool false => "false".toList
  | .int n => intChars n
  | .double x => x.jsonChars
  | .string s => quoted s
  | .array _ | .object _ => []

mutual

def compactChars : Json → List Char
  | .array items => '[' :: compactItems true items
  | .object members => '\x7b' :: compactMembers true members
  | scalar => scalar.scalarChars

def compactItems (first : Bool) : List Json → List Char
  | [] => [']']
  | item :: rest => (if first then [] else [',']) ++ compactChars item ++ compactItems false rest

def compactMembers (first : Bool) : List (String × Json) → List Char
  | [] => ['\x7d']
  | (name, value) :: rest =>
    (if first then [] else [',']) ++ quoted name ++ ':' :: compactChars value ++ compactMembers false rest

end

def compact (document : Json) : String := String.ofList document.compactChars

def newLine (depth : Nat) : List Char := '\n' :: List.replicate (2 * depth) ' '

mutual

def indentedChars (depth : Nat) : Json → List Char
  | .array [] => ['[', ']']
  | .array items => '[' :: indentedItems (depth + 1) true items ++ newLine depth ++ [']']
  | .object [] => ['\x7b', '\x7d']
  | .object members => '\x7b' :: indentedMembers (depth + 1) true members ++ newLine depth ++ ['\x7d']
  | scalar => scalar.scalarChars

def indentedItems (depth : Nat) (first : Bool) : List Json → List Char
  | [] => []
  | item :: rest =>
    (if first then [] else [',']) ++ newLine depth ++ indentedChars depth item ++ indentedItems depth false rest

def indentedMembers (depth : Nat) (first : Bool) : List (String × Json) → List Char
  | [] => []
  | (name, value) :: rest =>
    (if first then [] else [',']) ++ newLine depth ++ quoted name ++ ':' :: ' ' :: indentedChars depth value ++
      indentedMembers depth false rest

end

def indented (document : Json) : String := String.ofList (document.indentedChars 0)

mutual

/-- Members in the order of their names, at every level; of equal names the last one counts. -/
def sorted : Json → Json
  | .array items => .array (sortedItems items)
  | .object members => .object (sortedMembers [] members)
  | scalar => scalar

def sortedItems : List Json → List Json
  | [] => []
  | item :: rest => sorted item :: sortedItems rest

def sortedMembers (done : List (String × Json)) : List (String × Json) → List (String × Json)
  | [] => done
  | (name, value) :: rest => sortedMembers (Entries.put name (sorted value) done) rest

end

mutual

def nesting : Json → Nat
  | .array items => nestingItems items + 1
  | .object members => nestingMembers members + 1
  | _ => 0

def nestingItems : List Json → Nat
  | [] => 0
  | item :: rest => Nat.max (nesting item) (nestingItems rest)

def nestingMembers : List (String × Json) → Nat
  | [] => 0
  | (_, value) :: rest => Nat.max (nesting value) (nestingMembers rest)

end

def optionalMember {α : Type} (name : String) (write : α → Json) : Option α → List (String × Json)
  | none => []
  | some a => [(name, write a)]

def orNull {α : Type} (write : α → Json) : Option α → Json
  | none => .null
  | some a => write a

end Json

end FeatureLayers
