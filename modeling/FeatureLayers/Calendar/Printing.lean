import FeatureLayers.Calendar.Basic
import FeatureLayers.Numeric.Printing

namespace FeatureLayers

namespace Date

def yearChars (year : Int) : List Char :=
  if 0 ≤ year ∧ year ≤ 9999 then paddedDigits 4 year.natAbs
  else (if year < 0 then '-' else '+') :: paddedDigits 4 year.natAbs

def chars (d : Date) : List Char :=
  yearChars d.year ++ '-' :: paddedDigits 2 d.month ++ '-' :: paddedDigits 2 d.day

end Date

namespace Time

def fractionChars (nano : Nat) : List Char :=
  if nano = 0 then []
  else if nano % 1000000 = 0 then '.' :: paddedDigits 3 (nano / 1000000)
  else if nano % 1000 = 0 then '.' :: paddedDigits 6 (nano / 1000)
  else '.' :: paddedDigits 9 nano

def chars (t : Time) : List Char :=
  let leap := billion ≤ t.nano
  let second := if leap then t.second + 1 else t.second
  let nano := if leap then t.nano - billion else t.nano
  paddedDigits 2 t.hour ++ ':' :: paddedDigits 2 t.minute ++ ':' :: paddedDigits 2 second ++ fractionChars nano

end Time

namespace DateTime

def chars (d : DateTime) : List Char := d.date.chars ++ ' ' :: d.time.chars

def isoChars (d : DateTime) : List Char := d.date.chars ++ 'T' :: d.time.chars

end DateTime

end FeatureLayers
