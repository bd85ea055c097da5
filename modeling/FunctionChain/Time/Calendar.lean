import FunctionChain.Text.Bytes

/-!
# The calendar

Days and dates of the Gregorian calendar, extended to all years. Days are counted from the first of
January of year 1. A date is found from a day by the cycle of 400 years: four centuries, each of
twenty-five times four years, of which the last has the leap day.
-/

namespace FunctionChain

namespace Calendar

/-- A date. Months and days count from one. -/
structure Date where
  year : Int
  month : Nat
  day : Nat
deriving Repr, DecidableEq

/-- Whether a year has a leap day. -/
def isLeap (year : Int) : Bool := year % 4 == 0 && (year % 100 != 0 || year % 400 == 0)

/-- The lengths of the months. -/
def monthLengths (leap : Bool) : List Nat :=
  [31, if leap then 29 else 28, 31, 30, 31, 30, 31, 31, 30, 31, 30, 31]

/-- The number of days in a month. -/
def daysIn (year : Int) (month : Nat) : Nat := (monthLengths (isLeap year)).getD (month - 1) 0

/-- The number of days before the first of January of a year. -/
def daysBeforeYear (year : Int) : Int :=
  let past := year - 1
  365 * past + past / 4 - past / 100 + past / 400

/-- The day of a date. -/
def dayNumber (date : Date) : Int :=
  let before : Nat :=
    ((monthLengths (isLeap date.year)).take (date.month - 1)).foldl (fun days length => days + length) 0
  daysBeforeYear date.year + before + (date.day - 1 : Int)

/-- The month and the day in it of a day of the year, where `month` is the month at hand. -/
def monthOf : List Nat → Nat → Nat → Nat × Nat
  | [], month, day => (month, day + 1)
  | length :: rest, month, day =>
    if day < length then (month, day + 1) else monthOf rest (month + 1) (day - length)

/-- The date of a day. -/
def dateOf (day : Int) : Date :=
  let cycle := day / 146097
  let inCycle := (day % 146097).toNat
  let century := min 3 (inCycle / 36524)
  let inCentury := inCycle - century * 36524
  let four := inCentury / 1461
  let inFour := inCentury % 1461
  let year := min 3 (inFour / 365)
  let inYear := inFour - year * 365
  let number : Int := 400 * cycle + 100 * century + 4 * four + year + 1
  let (month, dayOfMonth) := monthOf (monthLengths (isLeap number)) 1 inYear
  ⟨number, month, dayOfMonth⟩

end Calendar

end FunctionChain
