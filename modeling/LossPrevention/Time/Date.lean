/-!
Dates of the Gregorian calendar, which is also used for the years before it, and the days between
them. Years are counted from March on, so that a leap day is the last day of its year.
-/

namespace LossPrevention.Time

structure Date where
  year : Int
  month : Nat
  day : Nat
  deriving DecidableEq

namespace Date

def isLeapYear (year : Int) : Bool :=
  year % 4 = 0 && (year % 100 ≠ 0 || year % 400 = 0)

def daysInMonth (year : Int) (month : Nat) : Nat :=
  if month = 2 then (if isLeapYear year then 29 else 28)
  else if month = 4 || month = 6 || month = 9 || month = 11 then 30
  else 31

def cycle : Int := 146097

/-- Days from the first of March of the year 0 to the first of January of 1970. -/
def epoch : Int := 719468

/-- Days since the first of January of 1970. -/
def toDays (date : Date) : Int :=
  let year := if date.month ≤ 2 then date.year - 1 else date.year
  let month := if date.month ≤ 2 then date.month + 9 else date.month - 3
  let inCycle := year % 400
  let inYear : Int := (153 * month + 2) / 5 + date.day - 1
  year / 400 * cycle + (inCycle * 365 + inCycle / 4 - inCycle / 100 + inYear) - epoch

def ofDays (days : Int) : Date :=
  let shifted := days + epoch
  let inCycle := shifted % cycle
  let year := (inCycle - inCycle / 1460 + inCycle / 36524 - inCycle / 146096) / 365
  let inYear := inCycle - (365 * year + year / 4 - year / 100)
  let month := (5 * inYear + 2) / 153
  let day := inYear - (153 * month + 2) / 5 + 1
  let month := if month < 10 then month + 3 else month - 9
  let year := shifted / cycle * 400 + year
  ⟨if month ≤ 2 then year + 1 else year, month.toNat, day.toNat⟩

/-- The date if the month has such a day. -/
def ofParts? (year : Int) (month day : Nat) : Option Date :=
  if 1 ≤ month ∧ month ≤ 12 ∧ 1 ≤ day ∧ day ≤ daysInMonth year month then
    some ⟨year, month, day⟩
  else none

end Date

end LossPrevention.Time
