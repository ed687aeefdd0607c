import FeatureLayers.Numeric.Shortest

namespace FeatureLayers

def digitChars (n : Nat) : List Char := Nat.toDigits 10 n

def zeros (n : Nat) : List Char := List.replicate n '0'

def paddedDigits (width n : Nat) : List Char :=
  let digits := digitChars n
  zeros (width - digits.length) ++ digits

def intChars (n : Int) : List Char :=
  if n < 0 then '-' :: digitChars n.natAbs else digitChars n.natAbs

def intText (n : Int) : String := String.ofList (intChars n)

def Decimal.positional (digits : List Char) (point : Int) : List Char :=
  if point ≤ 0 then '0' :: '.' :: zeros (-point).toNat ++ digits
  else if digits.length ≤ point.toNat then digits ++ zeros (point.toNat - digits.length)
  else digits.take point.toNat ++ '.' :: digits.drop point.toNat

namespace Double

def signChars (x : Double) : List Char := if x.negative then ['-'] else []

def positionalChars (x : Double) : List Char :=
  if x.isNaN then "NaN".toList
  else if x.isInfinite then x.signChars ++ "inf".toList
  else if x.isZero then x.signChars ++ ['0']
  else
    let decimal := x.shortest .up
    let digits := digitChars decimal.digits
    x.signChars ++ Decimal.positional digits (digits.length + decimal.power)

/-- The fewest digits that read back, never with an exponent; whole numbers have no point. -/
def toText (x : Double) : String := String.ofList x.positionalChars

def exponentialChars (digits : List Char) (exponent : Int) : List Char :=
  let mantissa := match digits with
    | [] => []
    | [d] => [d]
    | d :: rest => d :: '.' :: rest
  let sign := if exponent < 0 then '-' else '+'
  mantissa ++ 'e' :: sign :: digitChars exponent.natAbs

def jsonChars (x : Double) : List Char :=
  if !x.isFinite then "null".toList
  else if x.isZero then x.signChars ++ "0.0".toList
  else
    let decimal := x.shortest .toEven
    let digits := digitChars decimal.digits
    let point : Int := digits.length + decimal.power
    x.signChars ++
      if 16 < point || point ≤ -5 then exponentialChars digits (point - 1)
      else if 0 ≤ decimal.power then Decimal.positional digits point ++ ".0".toList
      else Decimal.positional digits point

def fixedChars (places : Nat) (x : Double) : List Char :=
  if x.isNaN then "NaN".toList
  else if x.isInfinite then x.signChars ++ "inf".toList
  else
    let units := roundQuotient (x.scaled.natAbs * Nat.pow 10 places) (Nat.pow 2 1074)
    let whole := digitChars (units / Nat.pow 10 places)
    let part := paddedDigits places (units % Nat.pow 10 places)
    x.signChars ++ if places = 0 then whole else whole ++ '.' :: part

def toFixed (places : Nat) (x : Double) : String := String.ofList (x.fixedChars places)

end Double

end FeatureLayers
