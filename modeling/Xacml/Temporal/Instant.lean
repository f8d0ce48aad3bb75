import Xacml.Temporal.Field

/-!
# Counting seconds

Times of day and date-times are both counted in seconds and nanoseconds, and both move by a number
of nanoseconds.

* `Count` is a count of seconds with nanoseconds, which reach two milliards in a leap second,
* `Count.advance` moves a count; one that is in a leap second stays in it or leaves it as if the
  leap second were the second before it,
* `Count.order` orders counts.
-/

namespace Xacml
namespace Temporal

def secondNanos : Nat := 1000000000

/-- Seconds and nanoseconds from some point on. -/
structure Count where
  seconds : Int
  nanos : Int
  deriving DecidableEq, Repr

namespace Count

/-- The count with less than a second of nanoseconds, given less than two. -/
def carry (seconds nanos : Int) : Count :=
  if nanos < 0 then ⟨seconds - 1, nanos + secondNanos⟩
  else if secondNanos ≤ nanos then ⟨seconds + 1, nanos - secondNanos⟩
  else ⟨seconds, nanos⟩

/-- The count after the given number of nanoseconds, or before it for a negative number. -/
def advance (count : Count) (delta : Int) : Count :=
  let seconds := Int.tdiv delta secondNanos
  let nanos := Int.tmod delta secondNanos
  if secondNanos ≤ count.nanos then
    if 0 < seconds || (0 < nanos && 2 * secondNanos ≤ count.nanos + nanos) then
      carry (count.seconds + seconds) (count.nanos - secondNanos + nanos)
    else if seconds < 0 then
      carry (count.seconds + 1 + seconds) (count.nanos - secondNanos + nanos)
    else ⟨count.seconds, count.nanos + nanos⟩
  else carry (count.seconds + seconds) (count.nanos + nanos)

def order (a b : Count) : Ordering :=
  (compare a.seconds b.seconds).then (compare a.nanos b.nanos)

end Count

/-- The time of day of a count of seconds from some midnight on. -/
def Count.clock (count : Count) : Clock :=
  ⟨(Int.fmod count.seconds 86400).toNat, count.nanos.toNat⟩

/-- A time of day as a count from midnight on. -/
def Clock.count (clock : Clock) : Count :=
  ⟨clock.seconds, clock.nanos⟩

end Temporal
end Xacml
