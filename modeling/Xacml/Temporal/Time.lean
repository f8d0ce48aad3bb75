import Xacml.Temporal.Instant
import Xacml.Temporal.Zone

/-!
# Times of day

A time of day is kept in universal time together with the zone it was written in.  A time without
a zone is taken as universal time.

* `Time.read` and `Time.write` are its reader and writer,
* `Time.order` compares times in universal time,
* `Time.inRange` tells whether a time lies in a range that may pass midnight.
-/

namespace Xacml

/-- A time of day in universal time, and its zone. -/
structure Time where
  utc : Temporal.Clock
  zone : Option Int
  deriving DecidableEq, Repr

namespace Time

open Temporal

/-- The time of day that many seconds later, counted around midnight. -/
def rotate (clock : Clock) (seconds : Int) : Clock :=
  (clock.count.advance (seconds * secondNanos)).clock

def read (text : List Char) : Except Fault Time := do
  let (body, zone) ← splitZone (Text.trim text)
  let (clock, rest) ← readClock body
  atEnd rest
  return ⟨rotate clock (-(zone.getD 0)), zone⟩

def write (time : Time) : List Char :=
  writeClock (rotate time.utc (time.zone.getD 0)) ++ writeZone time.zone

/-- The order of two times in universal time. -/
def order (a b : Time) : Ordering :=
  a.utc.count.order b.utc.count

def atMost (a b : Time) : Bool :=
  (a.order b).isLE

/-- Whether a time lies between two others, going from `lower` to `upper` across midnight if
`upper` is the earlier one. -/
def inRange (time lower upper : Time) : Bool :=
  if lower.atMost upper then lower.atMost time && time.atMost upper
  else lower.atMost time || time.atMost upper

end Time

end Xacml
