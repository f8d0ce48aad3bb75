/-!
# Calendar dates

Dates of the proleptic Gregorian calendar, which has a year zero.

* `CalendarDate` is a year, a month and a day,
* `CalendarDate.isValid` says which triples are dates of the supported years,
* `CalendarDate.dayNumber` counts the days from the first of January of the year one on, and
  `CalendarDate.ofDayNumber` is its inverse,
* `CalendarDate.addMonths?` moves a date by months; a day that the month does not have becomes its
  last one.
-/

namespace Xacml

/-- A year, a month from 1 to 12, and a day of that month. -/
structure CalendarDate where
  year : Int
  month : Nat
  day : Nat
  deriving DecidableEq, Repr

namespace CalendarDate

/-! ## Years and months -/

def minYear : Int := -262143

def maxYear : Int := 262142

def isLeap (year : Int) : Bool :=
  Int.emod year 4 == 0 && (Int.emod year 100 != 0 || Int.emod year 400 == 0)

def monthLengths (year : Int) : List Nat :=
  [31, if isLeap year then 29 else 28, 31, 30, 31, 30, 31, 31, 30, 31, 30, 31]

/-- The number of days of a month; none for a month that does not exist. -/
def daysInMonth (year : Int) (month : Nat) : Nat :=
  match month with
  | 0 => 0
  | index + 1 => (monthLengths year)[index]?.getD 0

/-- Whether the triple is a date of a supported year. -/
def isValid (date : CalendarDate) : Bool :=
  minYear ≤ date.year && date.year ≤ maxYear && 1 ≤ date.day &&
    date.day ≤ daysInMonth date.year date.month

/-- The date with the given parts, if there is one. -/
def ofParts? (year : Int) (month day : Nat) : Option CalendarDate :=
  let date : CalendarDate := ⟨year, month, day⟩
  if date.isValid then some date else none

/-! ## Day numbers -/

/-- The number of days from the first of January of the year one to the first of January of the
given year. -/
def daysBeforeYear (year : Int) : Int :=
  let past := year - 1
  365 * past + Int.fdiv past 4 - Int.fdiv past 100 + Int.fdiv past 400

/-- The number of days from the first of January to the first of the given month. -/
def daysBeforeMonth (year : Int) (month : Nat) : Nat :=
  ((monthLengths year).take (month - 1)).foldl (· + ·) 0

/-- The number of days from the first of January of the year one to a date. -/
def dayNumber (date : CalendarDate) : Int :=
  daysBeforeYear date.year + daysBeforeMonth date.year date.month + (date.day - 1 : Int)

/-- The year of a day number.  Four hundred years have 146097 days, so that the estimate is off by
one year at most. -/
def yearOf (number : Int) : Int :=
  let estimate := Int.fdiv (400 * number) 146097 + 1
  if number < daysBeforeYear estimate then estimate - 1
  else if daysBeforeYear (estimate + 1) ≤ number then estimate + 1
  else estimate

/-- The month, counted from `month` on, and the day of the month of a number of days, given the
lengths of the months. -/
def locate (month : Nat) (lengths : List Nat) (days : Nat) : Nat × Nat :=
  match lengths with
  | [] => (month, days + 1)
  | length :: rest =>
      if days < length then (month, days + 1) else locate (month + 1) rest (days - length)

def ofDayNumber (number : Int) : CalendarDate :=
  let year := yearOf number
  let (month, day) := locate 1 (monthLengths year) (number - daysBeforeYear year).toNat
  ⟨year, month, day⟩

def firstDay : Int := daysBeforeYear minYear

def lastDay : Int := daysBeforeYear (maxYear + 1) - 1

/-! ## Order and arithmetic -/

def order (a b : CalendarDate) : Ordering :=
  (compare a.year b.year).then ((compare a.month b.month).then (compare a.day b.day))

/-- The greatest number of months that a date is moved by. -/
def maxMonths : Nat := Nat.pow 2 31 - 1

/-- The date that many months later, or earlier for a negative number. -/
def addMonths? (date : CalendarDate) (months : Int) : Option CalendarDate :=
  if months = 0 then some date
  else if maxMonths < months.natAbs then none
  else
    let index := date.year * 12 + date.month - 1 + months
    let year := Int.fdiv index 12
    let month := (Int.fmod index 12).toNat + 1
    let day := min date.day (daysInMonth year month)
    ofParts? year month day

end CalendarDate

end Xacml
