import CurvePnl.Decimal.Digit

/-! # The civil calendar

Years, months and days of the Gregorian calendar, extended without end in both directions (year
0 exists), and the day number that counts days from the first of March of year 0. Counting years
from March puts the leap day at the end of the year, so that both ways are plain arithmetic.
-/

namespace CurvePnl

/-- A year, a month from 1 and a day of the month from 1. -/
structure Civil where
  year : Int
  month : Nat
  day : Nat
  deriving Repr, DecidableEq

namespace Civil

def isLeap (year : Int) : Bool :=
  year % 4 == 0 && (year % 100 != 0 || year % 400 == 0)

/-- The number of days of a month from 1 to 12; no other month has any. -/
def daysInMonth (year : Int) (month : Nat) : Nat :=
  if month = 2 then (if isLeap year then 29 else 28)
  else if month = 4 ∨ month = 6 ∨ month = 9 ∨ month = 11 then 30
  else if 1 ≤ month ∧ month ≤ 12 then 31
  else 0

/-- The day exists in the calendar. -/
def Valid (c : Civil) : Prop := 1 ≤ c.day ∧ c.day ≤ daysInMonth c.year c.month

instance (c : Civil) : Decidable c.Valid := inferInstanceAs (Decidable (_ ∧ _))

/-- The days before a month of a year that starts in March; `month` counts from 0 for March. -/
def daysBefore (month : Nat) : Nat := (153 * month + 2) / 5

/-- The number of days from the first of March of year 0. -/
def number (c : Civil) : Int :=
  let year := if c.month ≤ 2 then c.year - 1 else c.year
  let month := (c.month + 9) % 12
  365 * year + year / 4 - year / 100 + year / 400 + daysBefore month + c.day - 1

/-- The days of 400 years, after which the calendar repeats. -/
def cycle : Int := 146097

/-- The day that a day number stands for. -/
def ofNumber (n : Int) : Civil :=
  let inCycle := (n % cycle).toNat
  let year := (inCycle - inCycle / 1460 + inCycle / 36524 - inCycle / 146096) / 365
  let inYear := inCycle - (365 * year + year / 4 - year / 100)
  let month := (5 * inYear + 2) / 153
  let day := inYear - daysBefore month + 1
  let january := if month < 10 then 0 else 1
  { year := n / cycle * 400 + year + january
    month := if month < 10 then month + 3 else month - 9
    day := day }

/-- A year padded with zeros to four digits, with its sign outside of 0 to 9999. -/
def yearText (year : Int) : String :=
  (if year < 0 then "-" else if 9999 < year then "+" else "") ++ Digit.padded 4 year.natAbs

/-- The form `YYYY-MM-DD`. -/
def text (c : Civil) : String :=
  yearText c.year ++ "-" ++ Digit.padded 2 c.month ++ "-" ++ Digit.padded 2 c.day

end Civil

end CurvePnl
