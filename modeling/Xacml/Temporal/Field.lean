import Xacml.Temporal.Calendar
import Xacml.Text.Blank
import Xacml.Text.Numeral

/-!
# Fields of dates and times

Dates and times are written as fields of digits with fixed characters between them.

* `Fault` says why a text was refused,
* `readDateFields` and `readClock` read the fields of a date and of a time of day,
* `writeDate` and `writeClock` write them.
-/

namespace Xacml
namespace Temporal

/-! ## Faults -/

/-- Why a text is no date or time.  The first failure from left to right decides. -/
inductive Fault
  | truncated
  | invalid
  | outOfRange
  | trailing
  | zoneHours
  | zoneMinutes
  | zoneRange
  | instantRange
  deriving DecidableEq, Repr

def Fault.message : Fault → String
  | truncated => "premature end of input"
  | invalid => "input contains invalid characters"
  | outOfRange => "input is out of range"
  | trailing => "trailing input"
  | zoneHours => "malformed time zone hours"
  | zoneMinutes => "malformed time zone minutes"
  | zoneRange => "time zone out of range"
  | instantRange => "date-time is out of range"

/-! ## Characters and numbers -/

def readMark (mark : Char) : List Char → Except Fault (List Char)
  | [] => .error .truncated
  | c :: rest => if c = mark then .ok rest else .error .invalid

/-- The digits that a text starts with, one at least. -/
def readDigits (digits : List Char) (text : List Char) : Except Fault (List Char) :=
  if text.isEmpty then .error .truncated
  else if digits.isEmpty then .error .invalid
  else .ok digits

def readNumber (width : Nat) (text : List Char) : Except Fault (Nat × List Char) := do
  let digits ← readDigits ((text.take width).takeWhile Char.isDigit) text
  return (Nat.ofDigitChars 10 digits 0, text.drop digits.length)

def readLongNumber (text : List Char) : Except Fault (Nat × List Char) := do
  let digits ← readDigits (text.takeWhile Char.isDigit) text
  let value := Nat.ofDigitChars 10 digits 0
  if value < Nat.pow 2 63 then return (value, text.drop digits.length) else throw .outOfRange

/-- A field of one or two digits, before which white space may stand, between two bounds. -/
def readField (low high : Nat) (text : List Char) : Except Fault (Nat × List Char) := do
  let (value, rest) ← readNumber 2 (Text.trimStart text)
  if low ≤ value && value ≤ high then return (value, rest) else throw .outOfRange

/-- A year: at most four digits, or a sign and any number of digits. -/
def readYear (text : List Char) : Except Fault (Int × List Char) := do
  let (year, rest) ←
    match Text.trimStart text with
    | '-' :: rest => (readLongNumber rest).map fun (n, rest) => (-(n : Int), rest)
    | '+' :: rest => (readLongNumber rest).map fun (n, rest) => ((n : Int), rest)
    | rest => (readNumber 4 rest).map fun (n, rest) => ((n : Int), rest)
  if -(Nat.pow 2 31) ≤ year && year < Nat.pow 2 31 then return (year, rest) else throw .outOfRange

/-- The fraction of a second in nanoseconds.  Digits beyond the ninth are dropped. -/
def readFraction : List Char → Except Fault (Nat × List Char)
  | '.' :: rest => do
      let digits ← readDigits ((rest.take 9).takeWhile Char.isDigit) rest
      let nanos := Nat.ofDigitChars 10 digits 0 * Nat.pow 10 (9 - digits.length)
      return (nanos, (rest.drop digits.length).dropWhile Char.isDigit)
  | text => .ok (0, text)

/-! ## Dates and times of day -/

structure DateFields where
  year : Int
  month : Nat
  day : Nat
  deriving DecidableEq, Repr

/-- A time of day: seconds from midnight on and nanoseconds.  During a leap second, which follows
the last second of a minute, the nanoseconds reach from one to two milliards. -/
structure Clock where
  seconds : Nat
  nanos : Nat
  deriving DecidableEq, Repr

def readDateFields (text : List Char) : Except Fault (DateFields × List Char) := do
  let (year, rest) ← readYear text
  let rest ← readMark '-' rest
  let (month, rest) ← readField 1 12 rest
  let rest ← readMark '-' rest
  let (day, rest) ← readField 1 31 rest
  return (⟨year, month, day⟩, rest)

/-- The time of day with the given fields; the second 60 is a leap second. -/
def Clock.ofFields (hour minute second nanos : Nat) : Clock :=
  if second = 60 then ⟨hour * 3600 + minute * 60 + 59, nanos + 1000000000⟩
  else ⟨hour * 3600 + minute * 60 + second, nanos⟩

/-- The fields `hour:minute:second`, with a fraction of the second. -/
def readClock (text : List Char) : Except Fault (Clock × List Char) := do
  let (hour, rest) ← readField 0 23 text
  let rest ← readMark ':' rest
  let (minute, rest) ← readField 0 59 rest
  let rest ← readMark ':' rest
  let (second, rest) ← readField 0 60 rest
  let (nanos, rest) ← readFraction rest
  return (Clock.ofFields hour minute second nanos, rest)

def atEnd : List Char → Except Fault Unit
  | [] => .ok ()
  | _ => .error .trailing

def DateFields.toDate (fields : DateFields) : Except Fault CalendarDate :=
  match CalendarDate.ofParts? fields.year fields.month fields.day with
  | some date => .ok date
  | none => .error .outOfRange

/-! ## Writing -/

def writeTwo (n : Nat) : List Char :=
  Text.padZeros 2 (Text.decimal n)

/-- A year: four digits, or a sign and at least four digits. -/
def writeYear (year : Int) : List Char :=
  let digits := Text.padZeros 4 (Text.decimal year.natAbs)
  if year < 0 then '-' :: digits
  else if 9999 < year then '+' :: digits
  else digits

def writeDate (date : CalendarDate) : List Char :=
  writeYear date.year ++ '-' :: writeTwo date.month ++ '-' :: writeTwo date.day

/-- A fraction of a second in three, six or nine digits, as few as do; none if it is zero. -/
def writeFraction (nanos : Nat) : List Char :=
  if nanos = 0 then []
  else if nanos % 1000000 = 0 then '.' :: Text.padZeros 3 (Text.decimal (nanos / 1000000))
  else if nanos % 1000 = 0 then '.' :: Text.padZeros 6 (Text.decimal (nanos / 1000))
  else '.' :: Text.padZeros 9 (Text.decimal nanos)

def writeClock (clock : Clock) : List Char :=
  let hour := clock.seconds / 3600
  let minute := clock.seconds / 60 % 60
  let second := clock.seconds % 60 + clock.nanos / 1000000000
  writeTwo hour ++ ':' :: writeTwo minute ++ ':' :: writeTwo second ++
    writeFraction (clock.nanos % 1000000000)

end Temporal
end Xacml
