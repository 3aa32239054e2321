/-!
# The calendar

Dates of the Gregorian calendar, extended backwards to the year 1. Days are counted from the first
of January of the year 1, which is day 0 and a Monday.
-/

namespace WorkflowWalk
namespace Time

structure Date where
  year : Nat
  month : Nat
  day : Nat
deriving DecidableEq, Repr

namespace Calendar

def isLeap (year : Nat) : Bool :=
  year % 4 == 0 && (year % 100 != 0 || year % 400 == 0)

def daysInMonth (year month : Nat) : Nat :=
  if month = 2 then (if isLeap year then 29 else 28)
  else if month = 4 ∨ month = 6 ∨ month = 9 ∨ month = 11 then 30
  else 31

def lastYear : Nat := 9999

def daysBeforeYear (year : Nat) : Nat :=
  let past := year - 1
  past * 365 + past / 4 - past / 100 + past / 400

def daysBeforeMonth (year month : Nat) : Nat :=
  (List.range (month - 1)).foldl (fun days before => days + daysInMonth year (before + 1)) 0

def dayCount : Nat :=
  daysBeforeYear (lastYear + 1)

def isDate (date : Date) : Bool :=
  1 ≤ date.year && date.year ≤ lastYear && 1 ≤ date.month && date.month ≤ 12 && 1 ≤ date.day &&
    date.day ≤ daysInMonth date.year date.month

def dayNumber (date : Date) : Nat :=
  daysBeforeYear date.year + daysBeforeMonth date.year date.month + (date.day - 1)

/-- The year that a day lies in: the estimate by the mean length of a year is at most one off. -/
def yearOf (number : Nat) : Nat :=
  let estimate := number * 400 / 146097 + 1
  if number < daysBeforeYear estimate then estimate - 1
  else if daysBeforeYear (estimate + 1) ≤ number then estimate + 1
  else estimate

def ofDayNumber (number : Nat) : Date :=
  let year := yearOf number
  let rest := number - daysBeforeYear year
  let month :=
    ((List.range 12).filter fun before => daysBeforeMonth year (before + 1) ≤ rest).length
  { year, month, day := rest - daysBeforeMonth year month + 1 }

/-! ## Weeks -/

def weekday (number : Nat) : Nat :=
  number % 7

/-- The Monday of the first week of a year, the week that holds its first Thursday. -/
def firstMonday (year : Nat) : Int :=
  let first := daysBeforeYear year
  let monday : Int := (first : Int) - weekday first
  if 3 < weekday first then monday + 7 else monday

/-- The weeks of a year: 53 if it starts on a Thursday, or on a Wednesday with a leap day to come. -/
def weekCount (year : Nat) : Nat :=
  let start := weekday (daysBeforeYear year)
  if start = 3 ∨ (start = 2 ∧ isLeap year = true) then 53 else 52

def ofWeek? (year week day : Nat) : Option Date :=
  if 1 ≤ year ∧ year ≤ lastYear ∧ 1 ≤ week ∧ week ≤ weekCount year ∧ 1 ≤ day ∧ day ≤ 7 then
    let number := firstMonday year + ((week - 1) * 7 + (day - 1) : Nat)
    if 0 ≤ number ∧ number < dayCount then some (ofDayNumber number.toNat) else none
  else
    none

end Calendar
end Time
end WorkflowWalk
