import FeatureLayers.Calendar.Reading

namespace FeatureLayers

inductive Value
  | null
  | bool (value : Bool)
  | int (value : Int)
  | double (value : Double)
  | dateTime (value : DateTime)
  | date (value : Date)
  | time (value : Time)
  | text (value : String)
  | binary (bytes : List UInt8)
deriving DecidableEq, Repr, Inhabited

abbrev Row := List Value

namespace Value

def isNull : Value → Bool
  | .null => true
  | _ => false

def clampInt64 (n : Int) : Int := max (-(Nat.pow 2 63 : Int)) (min n (Nat.pow 2 63 - 1))

/-- Whole doubles count as integers, at most the largest and at least the smallest of 64 bits. -/
def asInt? : Value → Option Int
  | .int n => some n
  | .double x => if x.isIntegral then some (clampInt64 x.truncate) else none
  | .text s => int64? (Text.trim s.toList)
  | _ => none

def asDouble? : Value → Option Double
  | .int n => some (Double.ofInt n)
  | .double x => some x
  | .text s => Double.ofChars? (Text.trim s.toList)
  | _ => none

def asText? : Value → Option String
  | .text s => some s
  | _ => none

def asBool? : Value → Option Bool
  | .bool b => some b
  | .int n => some (n != 0)
  | .text s => match Text.lowerText s with
    | "true" => some true
    | "false" => some false
    | _ => none
  | _ => none

def display : Value → String
  | .null => "NULL"
  | .bool true => "true"
  | .bool false => "false"
  | .int n => intText n
  | .double x => x.toText
  | .dateTime d => String.ofList d.chars
  | .date d => String.ofList d.chars
  | .time t => String.ofList t.chars
  | .text s => s
  | .binary bytes => "<" ++ intText bytes.length ++ " bytes>"

end Value

end FeatureLayers
