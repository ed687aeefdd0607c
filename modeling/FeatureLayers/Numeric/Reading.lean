import FeatureLayers.Numeric.Printing

namespace FeatureLayers

def digitValue? (c : Char) : Option Nat :=
  if '0' ≤ c ∧ c ≤ '9' then some (c.toNat - '0'.toNat) else none

def radixDigit? (radix : Nat) (c : Char) : Option Nat :=
  let value? :=
    if '0' ≤ c ∧ c ≤ '9' then some (c.toNat - '0'.toNat)
    else if 'a' ≤ c ∧ c ≤ 'z' then some (c.toNat - 'a'.toNat + 10)
    else if 'A' ≤ c ∧ c ≤ 'Z' then some (c.toNat - 'A'.toNat + 10)
    else none
  value?.filter (· < radix)

def isDigit (c : Char) : Bool := (digitValue? c).isSome

def digitsValue? (radix : Nat) (digits : List Char) : Option Nat :=
  digits.foldl (fun total? c => total?.bind fun total => (radixDigit? radix c).map (total * radix + ·)) (some 0)

def natOfDigits? (radix : Nat) : List Char → Option Nat
  | [] => none
  | digits => digitsValue? radix digits

def natBelow? (radix bound : Nat) (text : List Char) : Option Nat :=
  let value? := match text with
    | '+' :: digits => natOfDigits? radix digits
    | digits => natOfDigits? radix digits
  value?.filter (· < bound)

def intOf? (text : List Char) : Option Int :=
  match text with
  | '+' :: digits => (natOfDigits? 10 digits).map Int.ofNat
  | '-' :: digits => (natOfDigits? 10 digits).map fun n => -Int.ofNat n
  | digits => (natOfDigits? 10 digits).map Int.ofNat

def intOfWidth? (width : Nat) (text : List Char) : Option Int :=
  (intOf? text).filter fun n => -Nat.pow 2 (width - 1) ≤ n && n < Nat.pow 2 (width - 1)

def int64? (text : List Char) : Option Int := intOfWidth? 64 text

def int32? (text : List Char) : Option Int := intOfWidth? 32 text

def nat64? (text : List Char) : Option Nat := natBelow? 10 (Nat.pow 2 64) text

namespace Decimal

/--
The nearest number to `digits * 10 ^ power`. Powers far outside the range of the format are settled by the count of
digits, so that no huge power of ten is formed.
-/
def round (negative : Bool) (digits : Nat) (power : Int) : Double :=
  if digits = 0 then Double.signedZero negative
  else
    let scale : Int := (digitChars digits).length + power
    if 310 < scale then Double.signedInfinity negative
    else if scale < -330 then Double.signedZero negative
    else if 0 ≤ power then Double.ofRatio negative (digits * Nat.pow 10 power.toNat) 1
    else Double.ofRatio negative digits (Nat.pow 10 (-power).toNat)

def exponent? : List Char → Option Int
  | '+' :: digits => (natOfDigits? 10 digits).map Int.ofNat
  | '-' :: digits => (natOfDigits? 10 digits).map fun n => -Int.ofNat n
  | digits => (natOfDigits? 10 digits).map Int.ofNat

def read? (negative : Bool) (text : List Char) : Option Double :=
  let whole := text.takeWhile isDigit
  let rest := text.dropWhile isDigit
  let (part, rest) := match rest with
    | '.' :: tail => (tail.takeWhile isDigit, tail.dropWhile isDigit)
    | _ => ([], rest)
  let power? := match rest with
    | [] => some 0
    | c :: tail => if c = 'e' ∨ c = 'E' then exponent? tail else none
  match digitsValue? 10 (whole ++ part), power? with
  | some digits, some power =>
    if whole.isEmpty && part.isEmpty then none else some (round negative digits (power - part.length))
  | _, _ => none

end Decimal

namespace Double

def ofWord? (negative : Bool) (text : List Char) : Option Double :=
  match text.map Char.toLower with
  | ['n', 'a', 'n'] => some (if negative then nan.neg else nan)
  | ['i', 'n', 'f'] | ['i', 'n', 'f', 'i', 'n', 'i', 't', 'y'] => some (signedInfinity negative)
  | _ => none

def ofUnsigned? (negative : Bool) (text : List Char) : Option Double :=
  (ofWord? negative text).or (Decimal.read? negative text)

def ofChars? : List Char → Option Double
  | '+' :: rest => ofUnsigned? false rest
  | '-' :: rest => ofUnsigned? true rest
  | rest => ofUnsigned? false rest

def ofText? (text : String) : Option Double := ofChars? text.toList

end Double

end FeatureLayers
