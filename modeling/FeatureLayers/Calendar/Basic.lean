namespace FeatureLayers

def isLeapYear (year : Int) : Bool := year % 4 = 0 && (year % 100 != 0 || year % 400 = 0)

def daysInMonth (year : Int) (month : Nat) : Nat :=
  if month = 2 then (if isLeapYear year then 29 else 28)
  else if month = 4 ∨ month = 6 ∨ month = 9 ∨ month = 11 then 30
  else 31

def minYear : Int := -262143

def maxYear : Int := 262142

def isDate (year : Int) (month day : Nat) : Bool :=
  minYear ≤ year && year ≤ maxYear && 1 ≤ month && month ≤ 12 && 1 ≤ day && day ≤ daysInMonth year month

structure Date where
  year : Int
  month : Nat
  day : Nat
  valid : isDate year month day = true
deriving DecidableEq, Repr

def billion : Nat := 1000000000

def isTime (hour minute second nano : Nat) : Bool :=
  hour < 24 && minute < 60 && second < 60 && (nano < billion || (second = 59 && nano < 2 * billion))

structure Time where
  hour : Nat
  minute : Nat
  second : Nat
  nano : Nat
  valid : isTime hour minute second nano = true
deriving DecidableEq, Repr

structure DateTime where
  date : Date
  time : Time
deriving DecidableEq, Repr

namespace Date

def of? (year : Int) (month day : Nat) : Option Date :=
  if h : isDate year month day = true then some ⟨year, month, day, h⟩ else none

def next? (d : Date) : Option Date :=
  (of? d.year d.month (d.day + 1)).or ((of? d.year (d.month + 1) 1).or (of? (d.year + 1) 1 1))

def previous? (d : Date) : Option Date :=
  if 1 < d.day then of? d.year d.month (d.day - 1)
  else if 1 < d.month then of? d.year (d.month - 1) (daysInMonth d.year (d.month - 1))
  else of? (d.year - 1) 12 31

def shift? (d : Date) (days : Int) : Option Date :=
  if 0 < days then d.next? else if days < 0 then d.previous? else some d

end Date

namespace Time

def of? (hour minute second nano : Nat) : Option Time :=
  if h : isTime hour minute second nano = true then some ⟨hour, minute, second, nano, h⟩ else none

/-- Second 60 is the leap second of second 59. -/
def ofClock? (hour minute second nano : Nat) : Option Time :=
  if second = 60 then of? hour minute 59 (billion + nano) else of? hour minute second nano

def midnight : Time := ⟨0, 0, 0, 0, rfl⟩

def secondOfDay (t : Time) : Nat := t.hour * 3600 + t.minute * 60 + t.second

def ofSecondOfDay? (seconds nano : Nat) : Option Time :=
  of? (seconds / 3600) (seconds / 60 % 60) (seconds % 60) nano

end Time

namespace DateTime

def minusSeconds? (d : DateTime) (offset : Int) : Option DateTime :=
  let seconds : Int := d.time.secondOfDay - offset
  match d.date.shift? (seconds / 86400), Time.ofSecondOfDay? (seconds % 86400).toNat d.time.nano with
  | some date, some time => some ⟨date, time⟩
  | _, _ => none

end DateTime

end FeatureLayers
