import Xacml.Temporal.Date
import Xacml.Temporal.Duration
import Xacml.Temporal.Time

/-!
# Date-times

A date-time is an instant, counted in universal time from the first of January of the year one on,
together with the zone it was written in.  One without a zone is taken as universal time.

* `DateTime.read` and `DateTime.write` are its reader and writer,
* `DateTime.ofUnixTime?` is the date-time of a count from 1970 on,
* `DateTime.order` compares instants,
* `DateTime.addDuration?` and `DateTime.addMonths?` move a date-time,
* `DateTime.date` and `DateTime.time` are its parts.

In its zone an instant of the first or the last supported day may fall on a day that is not
supported.  No text denotes such a date-time, but a clock or a duration may lead there.  Asking for
its date or its text makes the program panic; here `DateTime.date` and `DateTime.write` give the day
itself, which is the one before the first or after the last that is supported.
-/

namespace Xacml

structure DateTime where
  instant : Temporal.Count
  zone : Option Int
  deriving DecidableEq, Repr

namespace DateTime

open Temporal

/-! ## Dates with times of day -/

def countOf (date : CalendarDate) (clock : Clock) : Count :=
  ⟨date.dayNumber * daySeconds + clock.seconds, clock.nanos⟩

/-- The number of the day that a count falls on. -/
def dayOf (count : Count) : Int :=
  Int.fdiv count.seconds daySeconds

def dateOf (count : Count) : CalendarDate :=
  CalendarDate.ofDayNumber (dayOf count)

/-- Whether a count falls on a supported day. -/
def inRange (count : Count) : Bool :=
  CalendarDate.firstDay ≤ dayOf count && dayOf count ≤ CalendarDate.lastDay

/-- The count that many seconds later.  A leap second stays one. -/
def shift (count : Count) (seconds : Int) : Count :=
  { count with seconds := count.seconds + seconds }

/-- The count in the local time of the zone. -/
def localCount (dateTime : DateTime) : Count :=
  shift dateTime.instant (dateTime.zone.getD 0)

/-- The date-time with the given local time, if its instant is supported. -/
def ofLocal? (count : Count) (zone : Option Int) : Option DateTime :=
  let instant := shift count (-(zone.getD 0))
  if inRange instant then some ⟨instant, zone⟩ else none

/-- The date-time that many nanoseconds after the start of 1970, in universal time, if it is
supported. -/
def ofUnixTime? (nanos : Int) : Option DateTime :=
  let start := CalendarDate.dayNumber ⟨1970, 1, 1⟩ * daySeconds
  let instant : Count := ⟨start + Int.fdiv nanos secondNanos, Int.fmod nanos secondNanos⟩
  if inRange instant then some ⟨instant, some 0⟩ else none

/-! ## Reading and writing -/

def read (text : List Char) : Except Fault DateTime := do
  let (body, zone) ← splitZone (Text.trim text)
  let (fields, rest) ← readDateFields body
  let rest ← readMark 'T' rest
  let (clock, rest) ← readClock rest
  atEnd rest
  let date ← fields.toDate
  match ofLocal? (countOf date clock) zone with
  | some dateTime => return dateTime
  | none => throw .instantRange

/-- The local time with its zone.  The program panics where the local day is not supported. -/
def write (dateTime : DateTime) : List Char :=
  let count := dateTime.localCount
  writeDate (dateOf count) ++ 'T' :: writeClock count.clock ++ writeZone dateTime.zone

/-! ## Order, parts and arithmetic -/

def order (a b : DateTime) : Ordering :=
  a.instant.order b.instant

/-- The local date, in the zone of the date-time.  The program panics where it is not supported. -/
def date (dateTime : DateTime) : Date :=
  ⟨dateOf dateTime.localCount, dateTime.zone⟩

/-- The time of day, in the zone of the date-time. -/
def time (dateTime : DateTime) : Time :=
  ⟨dateTime.instant.clock, dateTime.zone⟩

def addDuration? (dateTime : DateTime) (duration : DayTimeDuration) : Option DateTime :=
  let instant := dateTime.instant.advance duration.nanos
  if inRange instant then some { dateTime with instant := instant } else none

/-- The date-time whose local date is that many months later. -/
def addMonths? (dateTime : DateTime) (months : Int) : Option DateTime := do
  let count := dateTime.localCount
  let date ← (dateOf count).addMonths? months
  ofLocal? (countOf date count.clock) dateTime.zone

end DateTime

end Xacml
