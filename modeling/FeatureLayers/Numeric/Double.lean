namespace FeatureLayers

/-- A binary64 number, held as its word: a float operation may lose the payload of a NaN or the sign of a zero. -/
structure Double where
  bits : UInt64
deriving DecidableEq, Repr, Inhabited

namespace Double

def infinityMagnitude : Nat := 0x7ff0000000000000

def negative (x : Double) : Bool := Nat.pow 2 63 ≤ x.bits.toNat

def magnitude (x : Double) : Nat := x.bits.toNat % Nat.pow 2 63

def ofMagnitude (negative : Bool) (magnitude : Nat) : Double :=
  ⟨UInt64.ofNat (if negative then Nat.pow 2 63 + magnitude else magnitude)⟩

def isNaN (x : Double) : Bool := infinityMagnitude < x.magnitude

def isFinite (x : Double) : Bool := x.magnitude < infinityMagnitude

def isInfinite (x : Double) : Bool := x.magnitude = infinityMagnitude

def zero : Double := ⟨0⟩

def nan : Double := ⟨0x7ff8000000000000⟩

def infinity : Double := ⟨0x7ff0000000000000⟩

def neg (x : Double) : Double := ofMagnitude (!x.negative) x.magnitude

/-- The sign and exponent fields hold the number as `significand * 2 ^ exponent` units of `2 ^ -1074`. -/
def exponent (x : Double) : Nat := x.magnitude / Nat.pow 2 52 - 1

def significand (x : Double) : Nat :=
  if x.magnitude < Nat.pow 2 52 then x.magnitude else x.magnitude % Nat.pow 2 52 + Nat.pow 2 52

def scaled (x : Double) : Int :=
  let magnitude : Int := (x.significand * Nat.pow 2 x.exponent : Nat)
  if x.negative then -magnitude else magnitude

/-- An integer that orders the numbers that are not NaN; both zeros share one. -/
def key (x : Double) : Int := if x.negative then -x.magnitude else x.magnitude

def lt (x y : Double) : Bool := !x.isNaN && !y.isNaN && x.key < y.key

def le (x y : Double) : Bool := !x.isNaN && !y.isNaN && x.key ≤ y.key

def eq (x y : Double) : Bool := !x.isNaN && !y.isNaN && x.key = y.key

def isZero (x : Double) : Bool := x.magnitude = 0

/-- The smaller number; a NaN gives way to the other, and of two equal numbers the first is taken. -/
def min (x y : Double) : Double :=
  if x.isNaN then y else if y.lt x then y else x

def max (x y : Double) : Double :=
  if x.isNaN then y else if x.lt y then y else x

def roundQuotient (num den : Nat) : Nat :=
  let floor := num / den
  let rest := num % den
  if 2 * rest < den then floor
  else if den < 2 * rest then floor + 1
  else if floor % 2 = 0 then floor else floor + 1

/--
The number nearest to `num / den`, a half going to the even neighbour; `negative` is its sign, also of a zero.
The quotient is counted in units of `2 ^ -1074`, and as many low bits are rounded away as leave 53.
-/
def ofRatio (negative : Bool) (num den : Nat) : Double :=
  let units := num * Nat.pow 2 1074
  let dropped := (units / den).log2 - 52
  let magnitude := dropped * Nat.pow 2 52 + roundQuotient units (den * Nat.pow 2 dropped)
  ofMagnitude negative (Nat.min magnitude infinityMagnitude)

def ofScaled (n : Int) : Double := ofRatio (n < 0) n.natAbs (Nat.pow 2 1074)

def ofInt (n : Int) : Double := ofRatio (n < 0) n.natAbs 1

def ofNat (n : Nat) : Double := ofRatio false n 1

def signedZero (negative : Bool) : Double := ofMagnitude negative 0

def signedInfinity (negative : Bool) : Double := ofMagnitude negative infinityMagnitude

def add (x y : Double) : Double :=
  if x.isNaN || y.isNaN then nan
  else if x.isInfinite then (if y.isInfinite && x.negative != y.negative then nan else x)
  else if y.isInfinite then y
  else
    let sum := x.scaled + y.scaled
    if sum = 0 then signedZero (x.negative && y.negative) else ofScaled sum

def sub (x y : Double) : Double := add x y.neg

def mul (x y : Double) : Double :=
  let negative := x.negative != y.negative
  if x.isNaN || y.isNaN then nan
  else if x.isInfinite || y.isInfinite then (if x.isZero || y.isZero then nan else signedInfinity negative)
  else ofRatio negative (x.scaled.natAbs * y.scaled.natAbs) (Nat.pow 2 2148)

def div (x y : Double) : Double :=
  let negative := x.negative != y.negative
  if x.isNaN || y.isNaN then nan
  else if x.isInfinite then (if y.isInfinite then nan else signedInfinity negative)
  else if y.isInfinite then signedZero negative
  else if y.isZero then (if x.isZero then nan else signedInfinity negative)
  else ofRatio negative x.scaled.natAbs y.scaled.natAbs

def two : Double := ⟨0x4000000000000000⟩

def half (x : Double) : Double := div x two

def isIntegral (x : Double) : Bool := x.isFinite && x.scaled % Nat.pow 2 1074 = 0

def truncate (x : Double) : Int := if x.isFinite then x.scaled.tdiv (Nat.pow 2 1074) else 0

def toFloat (x : Double) : Float := Float.ofBits x.bits

def ofFloat (x : Float) : Double := ⟨x.toBits⟩

end Double

end FeatureLayers
