/-!
Dates of the proleptic Gregorian calendar, with a year zero and negative years, and their day
numbers counted from 1970-01-01.
-/

namespace Rulebook

structure Date where
  year : Int
  month : Nat
  day : Nat
  deriving DecidableEq, Repr

namespace Date

def isLeap (year : Int) : Bool :=
  year % 4 == 0 && (year % 100 != 0 || year % 400 == 0)

def monthLengths (year : Int) : List Nat :=
  [31, if isLeap year then 29 else 28, 31, 30, 31, 30, 31, 31, 30, 31, 30, 31]

def firstYear : Int := -262143

def lastYear : Int := 262142

def isValid (date : Date) : Bool :=
  decide (firstYear ≤ date.year) && decide (date.year ≤ lastYear) && decide (1 ≤ date.month) &&
    decide (1 ≤ date.day) &&
    ((monthLengths date.year)[date.month - 1]?).any fun length => date.day ≤ length

/-- The days from the first day of year 1 to the first day of a year. Division rounds down. -/
def daysBeforeYear (year : Int) : Int :=
  let past := year - 1
  365 * past + past / 4 - past / 100 + past / 400

def daysBeforeMonth (year : Int) (month : Nat) : Nat :=
  ((monthLengths year).take (month - 1)).foldl (· + ·) 0

def epoch : Int := 719162

def dayNumber (date : Date) : Int :=
  daysBeforeYear date.year + daysBeforeMonth date.year date.month + (date.day - 1 : Int) - epoch

example : dayNumber ⟨1970, 1, 1⟩ = 0 := by decide

example : dayNumber ⟨2024, 3, 1⟩ = dayNumber ⟨2024, 2, 28⟩ + 2 := by decide

end Date

end Rulebook
