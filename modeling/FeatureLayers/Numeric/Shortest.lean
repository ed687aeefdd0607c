import FeatureLayers.Numeric.Double

namespace FeatureLayers

structure Decimal where
  digits : Nat
  power : Int
deriving DecidableEq, Repr, Inhabited

inductive Tie
  | up
  | toEven
deriving DecidableEq, Repr

namespace Double

/-- A number with its rounding interval, all over one denominator. -/
structure Interval where
  low : Nat
  value : Nat
  high : Nat
  den : Nat
  closed : Bool

def interval (x : Double) : Interval :=
  let m := x.significand
  let unit := Nat.pow 2 x.exponent
  let lowGap := if m = Nat.pow 2 52 && x.exponent != 0 then 1 else 2
  ⟨(4 * m - lowGap) * unit, 4 * m * unit, (4 * m + 2) * unit, Nat.pow 2 1076, m % 2 = 0⟩

def Interval.contains (i : Interval) (num den : Nat) : Bool :=
  let n := num * i.den
  if i.closed then i.low * den ≤ n && n ≤ i.high * den else i.low * den < n && n < i.high * den

def Interval.onGrid (i : Interval) (tie : Tie) (power : Int) : Option Nat :=
  let num := Nat.pow 10 power.toNat
  let den := Nat.pow 10 (-power).toNat
  let floor := i.value * den / (i.den * num)
  let below := i.contains (floor * num) den
  let above := i.contains ((floor + 1) * num) den
  let twice := 2 * (i.value * den)
  let middle := (2 * floor + 1) * (i.den * num)
  if below && above then
    if twice < middle then some floor
    else if middle < twice then some (floor + 1)
    else match tie with
      | .up => some (floor + 1)
      | .toEven => some (if floor % 2 = 0 then floor else floor + 1)
  else if below then some floor
  else if above then some (floor + 1)
  else none

def Interval.search (i : Interval) (tie : Tie) : Nat → Int → Decimal
  | 0, power => ⟨i.value * Nat.pow 10 (-power).toNat / (i.den * Nat.pow 10 power.toNat), power⟩
  | fuel + 1, power =>
    match i.onGrid tie power with
    | some digits => ⟨digits, power⟩
    | none => i.search tie fuel (power - 1)

/-- An upper bound of the number's decimal exponent, at most two too large. -/
def decimalExponent (x : Double) : Int :=
  (((x.significand.log2 + x.exponent : Nat) : Int) - 1074) * 30103 / 100000 + 2

/-- The shortest decimal that reads back as the magnitude of a finite number: on the coarsest grid with a point in the
number's interval one of its two neighbours lies there, and of two such neighbours the nearer is taken. -/
def shortest (x : Double) (tie : Tie) : Decimal :=
  if x.magnitude = 0 then ⟨0, 0⟩ else x.interval.search tie 24 x.decimalExponent

end Double

end FeatureLayers
