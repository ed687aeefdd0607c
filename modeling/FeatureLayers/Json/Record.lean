import FeatureLayers.Json.Reading

namespace FeatureLayers.Json

namespace Node

def text? : Node → Option String
  | .string text => text
  | _ => none

def bool? : Node → Option Bool
  | .bool b => some b
  | _ => none

def int? (low high : Int) : Node → Option Int
  | .number literal => match literal.value? with
    | some (.nat n) => (some (n : Int)).filter fun n => low ≤ n && n ≤ high
    | some (.negative n) => (some n).filter fun n => low ≤ n && n ≤ high
    | _ => none
  | _ => none

def int64? (node : Node) : Option Int := node.int? (-Nat.pow 2 63) (Nat.pow 2 63 - 1)

def int32? (node : Node) : Option Int := node.int? (-Nat.pow 2 31) (Nat.pow 2 31 - 1)

def nat64? (node : Node) : Option Nat := (node.int? 0 (Nat.pow 2 64 - 1)).map Int.toNat

def byte? (node : Node) : Option UInt8 := (node.int? 0 255).map fun n => UInt8.ofNat n.toNat

def NumberValue.toDouble : NumberValue → Double
  | .nat n => Double.ofNat n
  | .negative n => Double.ofInt n
  | .double x => x

def double? : Node → Option Double
  | .number literal => literal.value?.map NumberValue.toDouble
  | _ => none

def list? {α : Type} (read : Node → Option α) : Node → Option (List α)
  | .array items => items.mapM read
  | _ => none

/-- The name of a choice without content, as a text or as the only member of an object. -/
def choice? : Node → Option String
  | .string name => name
  | .object [(name, .null)] => name
  | _ => none

mutual

def hasValues : Node → Bool
  | .string text => text.isSome
  | .number literal => literal.value?.isSome
  | .array items => itemsHaveValues items
  | .object members => membersHaveValues members
  | .null | .bool _ => true

def itemsHaveValues : List Node → Bool
  | [] => true
  | item :: rest => hasValues item && itemsHaveValues rest

def membersHaveValues : List (Option String × Node) → Bool
  | [] => true
  | (name, value) :: rest => name.isSome && hasValues value && membersHaveValues rest

end

end Node

def maxNesting : Nat := 127

/-- The known members of a record; an array holds a first part of them. -/
structure Record where
  isObject : Bool
  members : List (String × Node)

namespace Record

def ofNode? (names : List String) : Node → Option Record
  | .object members => do
    let members ← members.mapM fun (name?, value) => name?.map (·, value)
    let known := members.filter fun member => names.contains member.1
    if (known.map Prod.fst).Nodup then some ⟨true, known⟩ else none
  | .array items => if items.length ≤ names.length then some ⟨false, names.zip items⟩ else none
  | _ => none

def find? (r : Record) (name : String) : Option Node := (r.members.find? (·.1 = name)).map Prod.snd

def required {α : Type} (r : Record) (name : String) (read : Node → Option α) : Option α := (r.find? name).bind read

def optional {α : Type} (r : Record) (name : String) (read : Node → Option α) : Option (Option α) :=
  match r.find? name with
  | some .null => some none
  | some value => (read value).map some
  | none => if r.isObject then some none else none

def withDefault {α : Type} (r : Record) (name : String) (default : α) (read : Node → Option α) : Option α :=
  match r.find? name with
  | some value => read value
  | none => some default

end Record

end FeatureLayers.Json
