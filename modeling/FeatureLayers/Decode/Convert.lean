import FeatureLayers.Decode.Fault
import FeatureLayers.Value

namespace FeatureLayers.Decode

inductive Converter
  | passThrough
  | date
  | time
  | dateTime
  | double
deriving DecidableEq, Repr

namespace Converter

def name : Converter → String
  | .passThrough => "PassThrough"
  | .date => "Date"
  | .time => "Time"
  | .dateTime => "DateTime"
  | .double => "Double"

def ofType : AttributeType → Converter
  | .date => .date
  | .time => .time
  | .dateTime => .dateTime
  | .double => .double
  | _ => .passThrough

def target : Converter → AttributeType
  | .passThrough => .text
  | .date => .date
  | .time => .time
  | .dateTime => .dateTime
  | .double => .double

open Calendar

def readDateTime? (text : List Char) : Option DateTime :=
  (timestamp? text).or <| (patternOffsetDateTime? text).or <|
    (patternDateTime? .blanks text).or (patternDateTime? .letter text)

def toDouble? : Value → Option Value
  | .double x => some (.double x)
  | .int n => some (.double (Double.ofInt n))
  | .text s => (Double.ofChars? (Text.trim s.toList)).map .double
  | _ => none

def toDate? : Value → Option Value
  | .date d => some (.date d)
  | .dateTime d => some (.date d.date)
  | .text s => (patternDate? (Text.trim s.toList)).map .date
  | _ => none

def toTime? : Value → Option Value
  | .time t => some (.time t)
  | .dateTime d => some (.time d.time)
  | .text s => (patternTime? (Text.trim s.toList)).map .time
  | _ => none

def toDateTime? : Value → Option Value
  | .dateTime d => some (.dateTime d)
  | .date d => some (.dateTime ⟨d, Time.midnight⟩)
  | .text s => (readDateTime? (Text.trim s.toList)).map .dateTime
  | _ => none

def convert? : Converter → Value → Option Value
  | _, .null => some .null
  | .passThrough, value => some value
  | .double, value => toDouble? value
  | .date, value => toDate? value
  | .time, value => toTime? value
  | .dateTime, value => toDateTime? value

def convert (c : Converter) (value : Value) : Except Fault Value :=
  match c.convert? value with
  | some converted => .ok converted
  | none => .error (.conversion value.display c.target)

end Converter

end FeatureLayers.Decode
