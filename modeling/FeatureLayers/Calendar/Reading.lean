import FeatureLayers.Calendar.Printing
import FeatureLayers.Numeric.Reading
import FeatureLayers.Text.Blank

namespace FeatureLayers.Calendar

abbrev Taking (α : Type) := List Char → Option (α × List Char)

open Text (trimStart)

def takeNumber (least most : Nat) : Taking Nat := fun text =>
  let digits := (text.take most).takeWhile isDigit
  if digits.length < least then none
  else (natOfDigits? 10 digits).map (·, text.drop digits.length)

def takeDigits : Taking Nat := fun text => takeNumber 1 text.length text

def takeChar (c : Char) : List Char → Option (List Char)
  | [] => none
  | d :: rest => if c = d then some rest else none

def takeYear : Taking Int := fun text =>
  match trimStart text with
  | '-' :: rest => (takeDigits rest).map fun (n, rest) => (-(n : Int), rest)
  | '+' :: rest => (takeDigits rest).map fun (n, rest) => ((n : Int), rest)
  | rest => (takeNumber 1 4 rest).map fun (n, rest) => ((n : Int), rest)

def takeField : Taking Nat := fun text => takeNumber 1 2 (trimStart text)

/-- Up to nine digits of a fraction in nanoseconds; further digits are passed over. -/
def takeNanos : Taking Nat := fun text =>
  let digits := (text.take 9).takeWhile isDigit
  (natOfDigits? 10 digits).map fun n =>
    (n * Nat.pow 10 (9 - digits.length), (text.drop digits.length).dropWhile isDigit)

def takeFraction : Taking Nat
  | '.' :: rest => takeNanos rest
  | rest => some (0, rest)

inductive Spacing
  | tight
  | loose
deriving DecidableEq, Repr

def Spacing.skip : Spacing → List Char → List Char
  | .tight => id
  | .loose => trimStart

def takeDate (spacing : Spacing) : Taking Date := fun text => do
  let (year, text) ← takeYear text
  let text ← takeChar '-' (spacing.skip text)
  let (month, text) ← takeField text
  let text ← takeChar '-' (spacing.skip text)
  let (day, text) ← takeField text
  let date ← Date.of? year month day
  some (date, text)

def takeHourMinute (spacing : Spacing) : Taking (Nat × Nat) := fun text => do
  let (hour, text) ← takeField text
  let text ← takeChar ':' (spacing.skip text)
  let (minute, text) ← takeField text
  some ((hour, minute), text)

def takeSecond (spacing : Spacing) : Taking (Nat × Nat) := fun text => do
  let text ← takeChar ':' (spacing.skip text)
  let (second, text) ← takeField text
  let (nano, text) ← takeFraction text
  if second ≤ 60 then some ((second, nano), text) else none

def takeTime (spacing : Spacing) : Taking Time := fun text => do
  let ((hour, minute), text) ← takeHourMinute spacing text
  let ((second, nano), text) ← takeSecond spacing text
  let time ← Time.ofClock? hour minute second nano
  some (time, text)

def complete {α : Type} : Option (α × List Char) → Option α
  | some (a, []) => some a
  | _ => none

def patternDate? (text : List Char) : Option Date := complete (takeDate .tight text)

def patternTime? (text : List Char) : Option Time := complete (takeTime .tight text)

inductive Joint
  | letter
  | blanks
deriving DecidableEq, Repr

def Joint.take : Joint → List Char → Option (List Char)
  | .letter, text => takeChar 'T' text
  | .blanks, text => some (trimStart text)

def takeDateTime (joint : Joint) : Taking DateTime := fun text => do
  let (date, text) ← takeDate .tight text
  let text ← joint.take text
  let (time, text) ← takeTime .tight text
  some (⟨date, time⟩, text)

def patternDateTime? (joint : Joint) (text : List Char) : Option DateTime := complete (takeDateTime joint text)

inductive OffsetJoint
  | colon
  | colonsAndBlanks
deriving DecidableEq, Repr

def OffsetJoint.take : OffsetJoint → List Char → Option (List Char)
  | .colon, text => takeChar ':' text
  | .colonsAndBlanks, text => some (text.dropWhile fun c => c = ':' || Text.isBlank c)

def minusSign : Char := '−'

def takeOffset (joint : OffsetJoint) : Taking Int := fun text => do
  let (negative, text) ← match text with
    | '+' :: rest => some (false, rest)
    | c :: rest => if c = '-' || c = minusSign then some (true, rest) else none
    | [] => none
  let (hours, text) ← takeNumber 2 2 text
  let text ← joint.take text
  let (minutes, text) ← takeNumber 2 2 text
  if minutes < 60 then
    let seconds : Int := (hours * 3600 + minutes * 60 : Nat)
    some (if negative then -seconds else seconds, text)
  else none

def withOffset? (local_ : DateTime) (offset : Int) : Option DateTime :=
  if offset.natAbs < 86400 then local_.minusSeconds? offset else none

/-- An RFC 3339 timestamp: fields of full width and an offset or `Z`. The result is in UTC. -/
def timestamp? (text : List Char) : Option DateTime := do
  let (year, text) ← takeNumber 4 4 text
  let text ← takeChar '-' text
  let (month, text) ← takeNumber 2 2 text
  let text ← takeChar '-' text
  let (day, text) ← takeNumber 2 2 text
  let text ← match text with
    | c :: rest => if c = 'T' || c = 't' || c = ' ' then some rest else none
    | [] => none
  let (hour, text) ← takeNumber 2 2 text
  let text ← takeChar ':' text
  let (minute, text) ← takeNumber 2 2 text
  let text ← takeChar ':' text
  let (second, text) ← takeNumber 2 2 text
  let (nano, text) ← takeFraction text
  let (offset, text) ← match text with
    | 'Z' :: rest | 'z' :: rest => some (0, rest)
    | _ => takeOffset .colon text
  let date ← Date.of? year month day
  let time ← Time.ofClock? hour minute second nano
  if text.isEmpty then withOffset? ⟨date, time⟩ offset else none

def patternOffsetDateTime? (text : List Char) : Option DateTime := do
  let (written, text) ← takeDateTime .blanks text
  let (offset, text) ← takeOffset .colonsAndBlanks (trimStart text)
  if text.isEmpty then withOffset? written offset else none

def documentDate? (text : List Char) : Option Date :=
  complete ((takeDate .loose text).map fun (date, text) => (date, trimStart text))

def documentTime? (text : List Char) : Option Time := do
  let ((hour, minute), text) ← takeHourMinute .loose text
  let ((second, nano), text) := (takeSecond .loose text).getD ((0, 0), text)
  let time ← Time.ofClock? hour minute second nano
  if (trimStart text).isEmpty then some time else none

def documentDateTime? (text : List Char) : Option DateTime := do
  let (date, text) ← takeDate .loose text
  let text ← takeChar 'T' (trimStart text)
  let (time, text) ← takeTime .loose text
  if (trimStart text).isEmpty then some ⟨date, time⟩ else none

end FeatureLayers.Calendar
