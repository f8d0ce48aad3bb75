import Xacml.Temporal.Zone

/-!
# Dates

A date is kept with the zone it was written in.

* `Date.read` and `Date.write` are its reader and writer,
* `Date.addMonths?` moves a date by months.
-/

namespace Xacml

structure Date where
  date : CalendarDate
  zone : Option Int
  deriving DecidableEq, Repr

namespace Date

open Temporal

def read (text : List Char) : Except Fault Date := do
  let (body, zone) ← splitZone (Text.trim text)
  let (fields, rest) ← readDateFields body
  atEnd rest
  return ⟨← fields.toDate, zone⟩

def write (date : Date) : List Char :=
  writeDate date.date ++ writeZone date.zone

/-- The order of two dates, whatever their zones. -/
def order (a b : Date) : Ordering :=
  a.date.order b.date

def addMonths? (date : Date) (months : Int) : Option Date :=
  (date.date.addMonths? months).map fun moved => { date with date := moved }

end Date

end Xacml
